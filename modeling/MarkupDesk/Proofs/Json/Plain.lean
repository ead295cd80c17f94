/-
`Proofs/Json/Plain.lean` -- plain values read back.

A value is plain if there is nothing in it but truth values, strings and objects, no object of it
has two members of one name, and it is not too deep for the reader. What is printed of a plain
value is read as the value, in either form of the printer: the forms differ in their space only,
and the reader does not look at it (`reads_object`).
-/
import MarkupDesk.Proofs.Json.ReadBack

set_option autoImplicit false

namespace MarkupDesk.Json

/-- A value of truth values, strings and objects, with no more than `depth` objects inside one
another, in which every name stands once among the members of an object. -/
inductive Plain : (depth : Nat) → Json → Prop where
  | bool {depth : Nat} (value : Bool) : Plain depth (.bool value)
  | string {depth : Nat} (value : Text) : Plain depth (.string value)
  | object {depth : Nat} {members : List (Text × Json)}
    (hdistinct : (Dictionary.keys members).Nodup)
    (hmembers : ∀ member ∈ members, Plain depth member.2) : Plain (depth + 1) (.object members)

variable {depth : Nat} {value : Json}

/-! ## 1. Reading any value -/

theorem passesBlank_value : Reader.PassesBlank readValue := by
  intro depth t
  rw [readValue, readValue, skipSpace_blank]

/-- A truth value is read as it is printed. -/
theorem reads_bool (depth : Nat) (value : Bool) :
    Reader.Reads readValue depth (boolText value) (.bool value) := by
  intro rest
  cases value with
  | true =>
    show readValue depth ('t' :: 'r' :: 'u' :: 'e' :: rest) = _
    rw [readValue, skipSpace_cons (by decide)]
    rfl
  | false =>
    show readValue depth ('f' :: 'a' :: 'l' :: 's' :: 'e' :: rest) = _
    rw [readValue, skipSpace_cons (by decide)]
    rfl

/-- A quotation mark begins a string. -/
theorem readValue_quote (depth : Nat) (t : Text) :
    readValue depth ('"' :: t) = do
      let (text, rest) ← readString t
      return (.string text, rest) := by
  rw [readValue, skipSpace_cons (by decide)]
  rfl

/-- A brace begins an object, and takes one from the depth that the reader allows. -/
theorem readValue_brace (depth : Nat) (t : Text) :
    readValue (depth + 1) ('{' :: t) = do
      let (members, rest) ← readMembers (readValue depth) (t.length + 1) true [] t
      return (.object members, ← closeObject rest) := by
  rw [readValue, skipSpace_cons (by decide)]
  rfl

theorem reads_string (depth : Nat) (value : Text) :
    Reader.Reads readValue depth (quote value) (.string value) := by
  intro rest
  rw [quote_append, readValue_quote, readString_printed]
  rfl

theorem reads_empty (depth : Nat) :
    Reader.Reads readValue (depth + 1) ['{', '}'] (.object []) := by
  intro rest
  rw [List.cons_append, readValue_brace]
  rfl

/-- **An object reads back**, whatever space is in it, if its values do and every name stands in it
once. -/
theorem reads_object (spacing : Spacing) (write : Json → Text) {gap rest : Text}
    {member : Text × Json} {members : List (Text × Json)} (hgap : Blank gap)
    (hdistinct : (Dictionary.keys (member :: members)).Nodup)
    (hread : ∀ other ∈ member :: members, Reader.Reads readValue depth (write other.2) other.2) :
    readValue (depth + 1) ('{' :: membersText spacing write member members (gap ++ '}' :: rest)) =
      .ok (.object (member :: members), rest) := by
  rw [readValue_brace, readMembers_printed spacing write passesBlank_value hgap hdistinct hread rfl]
  simp only [bind, Except.bind, closeObject_end hgap]
  rfl

/-! ## 2. The two forms -/

/-- No space at all. -/
def Spacing.compact : Spacing := ⟨[], [], List.forall_mem_nil _, List.forall_mem_nil _⟩

/-- The compact form of members is the form with no space anywhere. -/
theorem compactMembers_cons (member : Text × Json) (members : List (Text × Json)) (behind : Text) :
    compactMembers (member :: members) ++ behind =
      membersText .compact Json.compact member members behind := by
  induction members generalizing member with
  | nil => simp [compactMembers, membersText, moreMembers, memberText, Spacing.compact]
  | cons next members ih =>
    rw [compactMembers, List.append_assoc, List.cons_append, ih]
    · simp [membersText, moreMembers, memberText, Spacing.compact]
    · simp

/-- **A plain value on one line** is read as the value. -/
theorem Plain.reads_compact (h : Plain depth value) :
    Reader.Reads readValue depth value.compact value := by
  induction h with
  | bool value => exact reads_bool _ value
  | string value => exact reads_string _ value
  | @object depth members hdistinct _ ih =>
    cases members with
    | nil => exact reads_empty depth
    | cons member members =>
      intro rest
      have htext : (Json.object (member :: members)).compact ++ rest =
          '{' :: membersText .compact Json.compact member members ([] ++ '}' :: rest) := by
        rw [Json.compact, ← compactMembers_cons]
        simp
      rw [htext]
      exact reads_object .compact Json.compact (List.forall_mem_nil _) hdistinct ih

/-- **A plain value over lines** is read as the value. -/
theorem Plain.reads_pretty (h : Plain depth value) (level : Nat) :
    Reader.Reads readValue depth (prettyAt level value) value := by
  induction h generalizing level with
  | bool value => exact reads_bool _ value
  | string value => exact reads_string _ value
  | @object depth members hdistinct _ ih =>
    cases members with
    | nil => exact reads_empty depth
    | cons member members =>
      intro rest
      have hread : ∀ other ∈ member :: members,
          Reader.Reads readValue depth (prettyAt (level + 1) other.2) other.2 :=
        fun other hmem => ih other hmem (level + 1)
      rw [prettyAt_object]
      exact reads_object _ _ (blank_newLine level) hdistinct hread

/-- A plain value that is not too deep is what either of its texts is read as. -/
theorem Plain.parse_eq (h : Plain maxDepth value) :
    parse value.compact = .ok value ∧ parse value.pretty = .ok value :=
  ⟨h.reads_compact.run, (h.reads_pretty 0).run⟩

/-- Where more objects may stand inside one another, a plain value is plain still. -/
theorem Plain.mono {deeper : Nat} (h : Plain depth value) (hdepth : depth ≤ deeper) :
    Plain deeper value := by
  induction h generalizing deeper with
  | bool value => exact .bool value
  | string value => exact .string value
  | @object depth members hdistinct _ ih =>
    obtain ⟨more, rfl⟩ := Nat.exists_eq_add_of_le hdepth
    rw [Nat.add_right_comm]
    exact .object hdistinct fun member hmem => ih member hmem (Nat.le_add_right depth more)

end MarkupDesk.Json
