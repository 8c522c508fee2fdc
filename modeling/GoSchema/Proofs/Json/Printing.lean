import GoSchema.Json.Printer
import GoSchema.Json.Reader
import GoSchema.Proofs.Text.Quoted
import Mathlib.Data.List.TakeWhile

/-!
# Printed JSON is read back

An object whose members are texts and truth values is read back from what is printed for it, at any
depth (`value?_print_object`), and so is every object with one member whose value is such an object
(`parse?_of_holdsMember`), however its key is spelled and wherever white space stands.

The printed text of a value also stands, letter by letter, in the printed text of whatever holds the
value (`isInfix_print_item`, `isInfix_print_member`).

## Strategy

Nothing of a printed object depends on its layout: in front of each sign and each value there is
only white space, which every step of the reader passes (`Spaces`).  So the reader is followed step
by step over texts of the form `spaces ++ sign :: rest`, and then over the members by induction.
-/

namespace GoSchema.Json

open Text Text.Quoted

/-! ## White space -/

/-- A text of white space. -/
def Spaces (s : List Char) : Prop := ∀ c ∈ s, isSpace c

theorem spaces_nil : Spaces [] := List.forall_mem_nil _

theorem spaces_blank : Spaces [' '] := List.forall_mem_singleton.mpr rfl

theorem spaces_newLine (depth : Nat) : Spaces (newLine depth) := by
  intro c hc
  rcases List.mem_cons.mp hc with rfl | hc
  · rfl
  · rw [List.eq_of_mem_replicate hc]
    rfl

variable {spaces rest : List Char}

theorem skipSpace_append (h : Spaces spaces) {c : Char} (hc : isSpace c = false) :
    skipSpace (spaces ++ c :: rest) = c :: rest := by
  rw [skipSpace, List.dropWhile_append_of_pos h, List.dropWhile_cons_of_neg (by rw [hc]; decide)]

theorem sign?_append (h : Spaces spaces) {sign : Char} (hsign : isSpace sign = false)
    (rest : List Char) : ∃ hrest, sign? sign (spaces ++ sign :: rest) = some ⟨rest, hrest⟩ := by
  unfold sign?
  split
  · next c more heq =>
    obtain ⟨rfl, rfl⟩ := List.cons_eq_cons.mp ((skipSpace_append h hsign).symm.trans heq)
    exact ⟨by simp; omega, if_pos rfl⟩
  · next heq =>
    rw [skipSpace_append h hsign] at heq
    cases heq

theorem sign?_append_eq_none (h : Spaces spaces) {c : Char} (hc : isSpace c = false) {sign : Char}
    (hne : c ≠ sign) : sign? sign (spaces ++ c :: rest) = none := by
  unfold sign?
  split
  · next d more heq =>
    rw [skipSpace_append h hc] at heq
    obtain ⟨rfl, -⟩ := List.cons_eq_cons.mp heq
    exact if_neg hne
  · rfl

/-! ## Texts and truth values -/

/-- A text, or a truth value. -/
inductive IsAtom : Json → Prop
  | text (s : String) : IsAtom (.ofText s)
  | bool (b : Bool) : IsAtom (.bool b)

/-- A value is read from the beginning of a text, and the rest is left. -/
def Yields (s : List Char) (j : Json) (rest : List Char) : Prop :=
  ∃ h, value? s = some (j, ⟨rest, h⟩)

theorem printPieces_pieces (s : String) : printPieces (pieces s) = encode s.toList := by
  rw [printPieces, pieces, List.flatMap_map]
  rfl

theorem taken?_some {α : Type} {s : List Char} {a : α} (h : rest.length < s.length) :
    taken? s (some (a, rest)) = some (a, ⟨rest, h⟩) :=
  dif_pos h

/-- What is no array and no object is read as an atom. -/
theorem yields_of_atom? (h : Spaces spaces) {c : Char} {more : List Char} (hspace : isSpace c = false)
    (harray : c ≠ '[') (hobject : c ≠ '\x7b') {j : Json} (hrest : rest.length < (c :: more).length)
    (hatom : atom? (c :: more) = some (j, ⟨rest, hrest⟩)) : Yields (spaces ++ c :: more) j rest := by
  have hskip : ∃ hrest, atom? (skipSpace (spaces ++ c :: more)) = some (j, ⟨rest, hrest⟩) :=
    (skipSpace_append h hspace).symm ▸ ⟨hrest, hatom⟩
  obtain ⟨hrest, hatom⟩ := hskip
  rw [Yields, value?, sign?_append_eq_none h hspace harray, sign?_append_eq_none h hspace hobject]
  dsimp only
  rw [hatom]
  exact ⟨_, rfl⟩

theorem IsAtom.yields {j : Json} (hj : IsAtom j) (h : Spaces spaces) (depth : Nat)
    (rest : List Char) : Yields (spaces ++ (print depth j ++ rest)) j rest := by
  cases hj with
  | text s =>
      have hread := (spelling_flatMap_escape s.toList).readPieces_eq rest
      have hlt : rest.length < ('"' :: (s.toList.flatMap escape ++ '"' :: rest)).length := by
        simp only [List.length_cons, List.length_append]
        omega
      rw [ofText, print, printPieces_pieces, encode, List.cons_append, List.append_assoc,
        List.singleton_append]
      refine yields_of_atom? h (by decide) (by decide) (by decide) hlt ?_
      rw [atom?]
      dsimp only
      rw [hread, Option.map_some, taken?_some hlt]
      rfl
  | bool b =>
      have hword (word : List Char) (hne : word ≠ []) : rest.length < (word ++ rest).length := by
        rw [List.length_append]
        exact Nat.lt_add_of_pos_left (List.length_pos_of_ne_nil hne)
      cases b with
      | true =>
          have hlt := hword ['t', 'r', 'u', 'e'] (List.cons_ne_nil _ _)
          exact yields_of_atom? h (by decide) (by decide) (by decide) hlt (taken?_some hlt)
      | false =>
          have hlt := hword ['f', 'a', 'l', 's', 'e'] (List.cons_ne_nil _ _)
          exact yields_of_atom? h (by decide) (by decide) (by decide) hlt (taken?_some hlt)

/-! ## Objects -/

/-- The printed member of an object. -/
def printMember (depth : Nat) (member : List Piece × Json) : List Char :=
  printPieces member.1 ++ ':' :: ' ' :: print depth member.2

theorem printMembers_eq (depth : Nat) (members : List (List Piece × Json)) :
    printMembers depth members = members.map (printMember depth) := by
  induction members with
  | nil => rfl
  | cons member members ih =>
      obtain ⟨key, value⟩ := member
      rw [printMembers, ih]
      rfl

theorem printItems_eq (depth : Nat) (items : List Json) :
    printItems depth items = items.map (print depth) := by
  induction items with
  | nil => rfl
  | cons item items ih =>
      rw [printItems, ih]
      rfl

/-- Lines between commas, each on a line of its own. -/
def joinLines (depth : Nat) (lines : List (List Char)) : List Char :=
  ((lines.map (newLine depth ++ ·)).intersperse [',']).flatten

theorem joinLines_singleton (depth : Nat) (line : List Char) :
    joinLines depth [line] = newLine depth ++ line := by
  simp [joinLines]

theorem joinLines_cons_cons (depth : Nat) (line next : List Char) (lines : List (List Char)) :
    joinLines depth (line :: next :: lines) =
      newLine depth ++ (line ++ ',' :: joinLines depth (next :: lines)) := by
  simp [joinLines]

theorem enclose_of_ne_nil (depth : Nat) (opening closing : Char) {lines : List (List Char)}
    (h : lines ≠ []) : enclose depth opening closing lines =
      opening :: (joinLines (depth + 1) lines ++ newLine depth ++ [closing]) := by
  rw [enclose, if_neg (by simpa using h)]
  rfl

/-- Members are read from the beginning of a text up to the end of their object. -/
def YieldsMembers (s : List Char) (members : List (List Piece × Json)) (rest : List Char) : Prop :=
  ∃ h, members? s = some (members, ⟨rest, h⟩)

/-- What follows a member: the end of the object, or a comma and the other members. -/
inductive GoesOn : (after : List Char) → List (List Piece × Json) → (rest : List Char) → Prop
  | close {spaces : List Char} (h : Spaces spaces) (rest : List Char) :
      GoesOn (spaces ++ '\x7d' :: rest) [] rest
  | comma {spaces more rest : List Char} {members : List (List Piece × Json)} (h : Spaces spaces)
      (hmore : YieldsMembers more members rest) : GoesOn (spaces ++ ',' :: more) members rest

section Members

variable {spaces₁ spaces₂ key value after : List Char} {keyPieces : List Piece} {j : Json}
  {members : List (List Piece × Json)}

theorem yieldsMembers_cons (h₁ : Spaces spaces₁) (h₂ : Spaces spaces₂)
    (hkey : Spelling key keyPieces) (hvalue : Yields value j after)
    (hafter : GoesOn after members rest) :
    YieldsMembers (spaces₁ ++ '"' :: (key ++ '"' :: (spaces₂ ++ ':' :: value)))
      ((keyPieces, j) :: members) rest := by
  obtain ⟨hq, hquote⟩ :=
    sign?_append h₁ (by decide : isSpace '"' = false) (key ++ '"' :: (spaces₂ ++ ':' :: value))
  have hread := hkey.readPieces_eq (spaces₂ ++ ':' :: value)
  have hlt : (spaces₂ ++ ':' :: value).length < (key ++ '"' :: (spaces₂ ++ ':' :: value)).length := by
    simp only [List.length_cons, List.length_append]
    omega
  obtain ⟨ht, hcolon⟩ := sign?_append h₂ (by decide : isSpace ':' = false) value
  obtain ⟨hu, hvalue⟩ := hvalue
  rw [YieldsMembers, members?, hquote]
  simp only [Option.bind_eq_bind, Option.bind_some, hread, taken?_some hlt, hcolon, hvalue]
  cases hafter with
  | close h rest =>
      obtain ⟨hv, hclosing⟩ := sign?_append h (by decide : isSpace '\x7d' = false) rest
      rw [sign?_append_eq_none h (by decide) (by decide), hclosing]
      exact ⟨by omega, rfl⟩
  | @comma spaces more rest members h hmore =>
      obtain ⟨hv, hcomma⟩ := sign?_append h (by decide : isSpace ',' = false) more
      obtain ⟨hw, hmore⟩ := hmore
      rw [hcomma]
      dsimp only
      rw [hmore]
      exact ⟨by omega, rfl⟩

theorem yields_object (h : Spaces spaces) (h₁ : Spaces spaces₁)
    (hmembers : YieldsMembers (spaces₁ ++ '"' :: after) members rest) :
    Yields (spaces ++ '\x7b' :: (spaces₁ ++ '"' :: after)) (.object members) rest := by
  obtain ⟨hr, hopening⟩ :=
    sign?_append h (by decide : isSpace '\x7b' = false) (spaces₁ ++ '"' :: after)
  obtain ⟨ht, hmembers⟩ := hmembers
  rw [Yields, value?, sign?_append_eq_none h (by decide) (by decide), hopening]
  dsimp only
  rw [sign?_append_eq_none h₁ (by decide) (by decide)]
  dsimp only
  rw [hmembers]
  exact ⟨by omega, rfl⟩

end Members

/-- The printed lines of some members. -/
def memberLines (depth : Nat) (members : List (String × Json)) : List (List Char) :=
  members.map fun m => printMember depth (pieces m.1, m.2)

theorem print_ofMembers (depth : Nat) (member : String × Json) (members : List (String × Json)) :
    print depth (.ofMembers (member :: members)) =
      '\x7b' :: (joinLines (depth + 1) (memberLines (depth + 1) (member :: members)) ++
        newLine depth ++ ['\x7d']) := by
  have hlines : memberLines (depth + 1) (member :: members) ≠ [] := List.cons_ne_nil _ _
  rw [← enclose_of_ne_nil depth _ _ hlines, ofMembers, print, printMembers_eq, List.map_map]
  rfl

theorem newLine_append_printMember (depth : Nat) (key : String) (j : Json) (after : List Char) :
    newLine depth ++ (printMember depth (pieces key, j) ++ after) =
      newLine depth ++ '"' :: (key.toList.flatMap escape ++ '"' ::
        ([] ++ ':' :: ([' '] ++ (print depth j ++ after)))) := by
  rw [printMember, printPieces_pieces, encode]
  simp only [List.append_assoc, List.cons_append, List.nil_append]

/-- The printed members of an object, each a text or a truth value, up to the end of the object. -/
theorem yieldsMembers_joinLines (depth outer : Nat) {member : String × Json}
    {members : List (String × Json)} (h : ∀ m ∈ member :: members, IsAtom m.2) (rest : List Char) :
    YieldsMembers
      (joinLines depth (memberLines depth (member :: members)) ++ (newLine outer ++ '\x7d' :: rest))
      ((member :: members).map fun m => (pieces m.1, m.2)) rest := by
  induction members generalizing member with
  | nil =>
      obtain ⟨key, j⟩ := member
      have hatom : IsAtom j := h (key, j) List.mem_cons_self
      rw [memberLines, List.map_singleton, List.map_singleton, joinLines_singleton,
        List.append_assoc, newLine_append_printMember]
      exact yieldsMembers_cons (spaces_newLine depth) spaces_nil
        (spelling_flatMap_escape key.toList) (hatom.yields spaces_blank depth _)
        (.close (spaces_newLine outer) rest)
  | cons next members ih =>
      obtain ⟨key, j⟩ := member
      obtain ⟨hatom, hmembers⟩ := List.forall_mem_cons.mp h
      have hlines : joinLines depth (memberLines depth ((key, j) :: next :: members)) =
          newLine depth ++ (printMember depth (pieces key, j) ++
            ',' :: joinLines depth (memberLines depth (next :: members))) :=
        joinLines_cons_cons ..
      rw [hlines, List.append_assoc, List.append_assoc, List.cons_append,
        newLine_append_printMember]
      exact yieldsMembers_cons (spaces_newLine depth) spaces_nil
        (spelling_flatMap_escape key.toList) (hatom.yields spaces_blank depth _)
        (.comma spaces_nil (ih hmembers))

theorem exists_joinLines_memberLines_eq (depth : Nat) (member : String × Json)
    (members : List (String × Json)) :
    ∃ more, joinLines depth (memberLines depth (member :: members)) =
      newLine depth ++ '"' :: more := by
  cases members with
  | nil => exact ⟨_, joinLines_singleton depth (printMember depth (pieces member.1, member.2))⟩
  | cons next members =>
      exact ⟨_, joinLines_cons_cons depth (printMember depth (pieces member.1, member.2)) _ _⟩

/-- **A printed object is read back**, if its members are texts and truth values. -/
theorem yields_print_ofMembers {member : String × Json} {members : List (String × Json)}
    (h : ∀ m ∈ member :: members, IsAtom m.2) (hspaces : Spaces spaces) (depth : Nat)
    (rest : List Char) :
    Yields (spaces ++ (print depth (.ofMembers (member :: members)) ++ rest))
      (.ofMembers (member :: members)) rest := by
  obtain ⟨more, hmore⟩ := exists_joinLines_memberLines_eq (depth + 1) member members
  have hmembers := yieldsMembers_joinLines (depth + 1) depth h rest
  rw [hmore, List.append_assoc, List.cons_append] at hmembers
  rw [print_ofMembers, hmore]
  simp only [List.cons_append, List.append_assoc, List.nil_append]
  exact yields_object hspaces (spaces_newLine _) hmembers

/-! ## An object with one member -/

/-- A text of an object with one member.  The key may be spelled in any way, and white space may stand
wherever it may stand in JSON. -/
inductive HoldsMember (key : String) (value : List Char) : List Char → Prop
  | mk {body : List Char} {pieces : List Piece} (hbody : Spelling body pieces)
      (hkey : join pieces = some key.toList) {s₁ s₂ s₃ s₄ s₅ s₆ : List Char} (h₁ : Spaces s₁)
      (h₂ : Spaces s₂) (h₃ : Spaces s₃) (h₄ : Spaces s₄) (h₅ : Spaces s₅) (h₆ : Spaces s₆) :
      HoldsMember key value (s₁ ++ '\x7b' :: (s₂ ++ '"' :: (body ++ '"' ::
        (s₃ ++ ':' :: (s₄ ++ (value ++ (s₅ ++ '\x7d' :: s₆)))))))

/-- Any key can be given to a value. -/
theorem holdsMember_encode (key : String) (value : List Char) :
    HoldsMember key value ('\x7b' :: (encode key.toList ++ ':' :: ' ' :: (value ++ ['\x7d']))) := by
  have h : HoldsMember key value ([] ++ '\x7b' :: ([] ++ '"' :: (key.toList.flatMap escape ++ '"' ::
      ([] ++ ':' :: ([' '] ++ (value ++ ([] ++ '\x7d' :: []))))))) :=
    .mk (spelling_flatMap_escape _) (join_map_char _) spaces_nil spaces_nil spaces_nil spaces_blank
      spaces_nil spaces_nil
  simpa only [encode, List.nil_append, List.cons_append, List.append_assoc] using h

/-- An object is read with its member, if the value of the member is read wherever it stands. -/
theorem parse?_of_holdsMember {key : String} {value written : List Char} {j : Json}
    (h : HoldsMember key value written)
    (hvalue : ∀ spaces, Spaces spaces → ∀ rest, Yields (spaces ++ (value ++ rest)) j rest) :
    ∃ keyPieces, parse? written = some (.object [(keyPieces, j)]) ∧
      (Json.string keyPieces).text? = some key := by
  obtain @⟨body, keyPieces, hbody, hkey, s₁, s₂, s₃, s₄, s₅, s₆, h₁, h₂, h₃, h₄, h₅, h₆⟩ := h
  obtain ⟨hr, hread⟩ := yields_object h₁ h₂
    (yieldsMembers_cons h₂ h₃ hbody (hvalue s₄ h₄ _) (.close h₅ s₆))
  refine ⟨keyPieces, ?_, ?_⟩
  · have hend : skipSpace s₆ = [] := List.dropWhile_eq_nil_iff.mpr h₆
    rw [parse?, hread, Option.bind_eq_bind, Option.bind_some]
    dsimp only
    rw [hend]
    rfl
  · rw [text?, hkey, Option.map_some, String.ofList_toList]

/-! ## Where a value stands in what is printed -/

theorem isInfix_joinLines {depth : Nat} {line : List Char} {lines : List (List Char)}
    (h : line ∈ lines) : line <:+: joinLines depth lines := by
  induction lines with
  | nil => cases h
  | cons first lines ih =>
      cases lines with
      | nil =>
          rw [List.mem_singleton.mp h, joinLines_singleton]
          exact (List.suffix_append _ _).isInfix
      | cons next lines =>
          rw [joinLines_cons_cons]
          rcases List.mem_cons.mp h with rfl | h
          · exact ⟨newLine depth, _, List.append_assoc ..⟩
          · refine (ih h).trans (List.IsSuffix.isInfix ?_)
            exact ((List.suffix_cons _ _).trans (List.suffix_append _ _)).trans
              (List.suffix_append _ _)

theorem isInfix_enclose {depth : Nat} {opening closing : Char} {line : List Char}
    {lines : List (List Char)} (h : line ∈ lines) : line <:+: enclose depth opening closing lines := by
  rw [enclose_of_ne_nil _ _ _ (List.ne_nil_of_mem h), List.append_assoc]
  exact ((isInfix_joinLines h).trans (List.prefix_append _ _).isInfix).trans
    (List.suffix_cons _ _).isInfix

/-- The line of a member stands in what is printed of its object. -/
theorem isInfix_print_member {depth : Nat} {key : String} {value : Json}
    {members : List (String × Json)} (h : (key, value) ∈ members) :
    printMember (depth + 1) (pieces key, value) <:+: print depth (.ofMembers members) := by
  rw [ofMembers, print, printMembers_eq]
  exact isInfix_enclose (List.mem_map.mpr ⟨_, List.mem_map.mpr ⟨_, h, rfl⟩, rfl⟩)

theorem isInfix_print_value {depth : Nat} (key : String) {value : Json}
    {members : List (String × Json)} (h : (key, value) ∈ members) :
    print (depth + 1) value <:+: print depth (.ofMembers members) := by
  have hvalue : print (depth + 1) value <:+ printMember (depth + 1) (pieces key, value) := by
    rw [printMember]
    exact ((List.suffix_cons _ _).trans (List.suffix_cons _ _)).trans (List.suffix_append _ _)
  exact hvalue.isInfix.trans (isInfix_print_member h)

theorem isInfix_print_item {depth : Nat} {item : Json} {items : List Json} (h : item ∈ items) :
    print (depth + 1) item <:+: print depth (.array items) := by
  rw [print, printItems_eq]
  exact isInfix_enclose (List.mem_map_of_mem h)

end GoSchema.Json
