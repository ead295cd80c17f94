/-
`Proofs/Json/ReadBack.lean` -- what is printed is read back.

A reader `Reads` a text as a value if it gives that value wherever the text stands, and
stops right behind it. Strings are read character by character (`reads_quote`), lists,
dictionaries and records item by item, each item behind the comma and the line break that
the printer puts in front of it. The readers take their items from a text that is as long
as they need: every item has at least its comma.
-/
import MarkupDesk.Json.Printer
import MarkupDesk.Json.Shape

set_option autoImplicit false

namespace MarkupDesk.Json

/-! ## 1. Readers and spaces -/

/-- The reader reads the text as the value, and nothing of what follows. -/
def Reader.Reads {α : Type} (reader : Reader α) (depth : Nat) (t : Text) (x : α) : Prop :=
  ∀ rest, reader depth (t ++ rest) = .ok (x, rest)

/-- What is read wherever it stands is read where it is all there is. -/
theorem Reader.Reads.run {α : Type} {reader : Reader α} {t : Text} {x : α}
    (h : reader.Reads maxDepth t x) : reader.run t = .ok x := by
  have hread := h []
  rw [List.append_nil] at hread
  rw [Reader.run, hread]
  rfl

/-- The reader passes over a blank in front of what it reads. -/
def Reader.PassesBlank {α : Type} (reader : Reader α) : Prop :=
  ∀ depth t, reader depth (' ' :: t) = reader depth t

theorem skipSpace_blank (t : Text) : skipSpace (' ' :: t) = skipSpace t := by
  rw [skipSpace, List.dropWhile_cons, if_pos (by decide), skipSpace]

/-- There is nothing but space in the text. -/
def Blank (t : Text) : Prop := ∀ c ∈ t, isSpace c = true

theorem skipSpace_append {gap : Text} (h : Blank gap) (t : Text) :
    skipSpace (gap ++ t) = skipSpace t := by
  rw [skipSpace, List.dropWhile_append_of_pos h, skipSpace]

/-- A line break with its indentation is blank. -/
theorem blank_newLine (level : Nat) : Blank (newLine level) := by
  intro c hc
  rcases List.mem_cons.1 hc with rfl | hc
  · decide
  · rw [List.eq_of_mem_replicate hc]
    decide

theorem skipSpace_newLine (level : Nat) (t : Text) : skipSpace (newLine level ++ t) = skipSpace t :=
  skipSpace_append (blank_newLine level) t

theorem skipSpace_cons {c : Char} (h : isSpace c = false) (t : Text) : skipSpace (c :: t) = c :: t := by
  rw [skipSpace, List.dropWhile_cons, if_neg (by simp [h])]

/-! ## 2. Strings -/

/-- The four digits of a control character are read as its number. -/
theorem readHexQuad_control {n : Nat} (h : n < 0x20) (rest : Text) :
    readHexQuad (Text.hexPadded 4 n ++ rest) = .ok (n, rest) := by
  have hdigits : ∀ n < 0x20, ∃ a b c d, Text.hexPadded 4 n = [a, b, c, d] ∧
      Text.hexValue? [a, b, c, d] = some n := by
    intro n hn
    -- there are only 32 of them, each with two leading zeros
    have hvalue : ∀ n < 0x20, Text.hexPadded 4 n = ['0', '0', (Text.hexPadded 4 n)[2]!,
        (Text.hexPadded 4 n)[3]!] ∧ Text.hexValue? ['0', '0', (Text.hexPadded 4 n)[2]!,
        (Text.hexPadded 4 n)[3]!] = some n := by decide
    exact ⟨_, _, _, _, hvalue n hn⟩
  obtain ⟨a, b, c, d, htext, hvalue⟩ := hdigits n h
  rw [htext]
  simp only [List.cons_append, List.nil_append, readHexQuad, hvalue]

/-- A control character is read from its four hexadecimal digits. -/
theorem readEscape_control {c : Char} (h : c.toNat < 0x20) (rest : Text) :
    readEscape ('u' :: (Text.hexPadded 4 c.toNat ++ rest)) = .ok (c, rest) := by
  -- no control character is half of a surrogate pair
  have hlow : ¬ (0xDC00 ≤ c.toNat ∧ c.toNat ≤ 0xDFFF) := by omega
  have hhigh : c.toNat < 0xD800 ∨ 0xDBFF < c.toNat := by omega
  have hchar : readUnicodeEscape (Text.hexPadded 4 c.toNat ++ rest) = .ok (c, rest) := by
    rw [readUnicodeEscape, readHexQuad_control h]
    simp only [bind, Except.bind, if_neg hlow, if_pos hhigh, Char.ofNat_toNat]
    rfl
  rw [readEscape]
  simp only [simpleEscape?]
  exact hchar

/-- An escape is read as its character, and the rest of the string behind it. -/
theorem readStringWithin_escape {escape rest : Text} {c : Char} (fuel : Nat)
    (h : readEscape (escape ++ rest) = .ok (c, rest)) :
    readStringWithin (fuel + 1) ('\\' :: escape ++ rest) =
      (readStringWithin fuel rest).map fun read => (c :: read.1, read.2) := by
  rw [List.cons_append, readStringWithin, if_neg (by decide), if_pos rfl, h]
  simp only [bind, Except.bind]
  cases readStringWithin fuel rest <;> rfl

/-- A character that needs no escape is read as itself. -/
theorem readStringWithin_plain {c : Char} (fuel : Nat) (hquote : c ≠ '"') (hslash : c ≠ '\\')
    (hcontrol : ¬ c.toNat < 0x20) (rest : Text) :
    readStringWithin (fuel + 1) (c :: rest) =
      (readStringWithin fuel rest).map fun read => (c :: read.1, read.2) := by
  rw [readStringWithin, if_neg hquote, if_neg hslash, if_neg hcontrol]
  cases readStringWithin fuel rest <;> rfl

/-- A character as it is printed is read as the character. The printer knows seven short
escapes, the escape with four digits for the other control characters, and prints all else as
it is; each is a way on which the reader comes back. -/
theorem readStringWithin_escapeChar (fuel : Nat) (c : Char) (rest : Text) :
    readStringWithin (fuel + 1) (escapeChar c ++ rest) =
      (readStringWithin fuel rest).map fun read => (c :: read.1, read.2) := by
  unfold escapeChar
  split
  next h => rw [eq_of_beq h]; exact readStringWithin_escape fuel rfl
  split
  next h => rw [eq_of_beq h]; exact readStringWithin_escape fuel rfl
  split
  next h => rw [eq_of_beq h]; exact readStringWithin_escape fuel rfl
  split
  next h => rw [eq_of_beq h]; exact readStringWithin_escape fuel rfl
  split
  next h => rw [eq_of_beq h]; exact readStringWithin_escape fuel rfl
  split
  next h => rw [eq_of_beq h]; exact readStringWithin_escape fuel rfl
  split
  next h => rw [eq_of_beq h]; exact readStringWithin_escape fuel rfl
  split
  -- the short escapes are done; left are the digits and the plain characters
  next hcontrol => exact readStringWithin_escape fuel (readEscape_control hcontrol rest)
  next hquote hslash _ _ _ _ _ hcontrol =>
    exact readStringWithin_plain fuel (by simpa using hquote) (by simpa using hslash) hcontrol rest

/-- **A printed string is read to its end.** The induction is on the string; the fuel counts
its characters, and one more for the closing mark. -/
theorem readStringWithin_printed {fuel : Nat} (t rest : Text) (h : t.length < fuel) :
    readStringWithin fuel (t.flatMap escapeChar ++ '"' :: rest) = .ok (t, rest) := by
  induction t generalizing fuel with
  | nil =>
    obtain ⟨fuel, rfl⟩ := Nat.exists_eq_succ_of_ne_zero (Nat.ne_of_gt h)
    rfl
  -- one unit of fuel for each character of the string, however long it is printed
  | cons c t ih =>
    obtain ⟨fuel, rfl⟩ := Nat.exists_eq_succ_of_ne_zero (Nat.ne_of_gt (Nat.zero_lt_of_lt h))
    have ht : t.length < fuel := Nat.lt_of_succ_lt_succ h
    rw [List.flatMap_cons, List.append_assoc, Nat.succ_eq_add_one, readStringWithin_escapeChar,
      ih ht]
    rfl

/-- No character is printed as nothing, so the text itself is fuel enough. -/
theorem length_le_length_printed (t : Text) : t.length ≤ (t.flatMap escapeChar).length := by
  induction t with
  | nil => simp
  | cons c t ih =>
    have hpos : 1 ≤ (escapeChar c).length := by
      unfold escapeChar
      repeat' split
      all_goals simp
    rw [List.flatMap_cons, List.length_append, List.length_cons]
    omega

/-- **Strings read back.** -/
theorem readString_printed (t rest : Text) :
    readString (t.flatMap escapeChar ++ '"' :: rest) = .ok (t, rest) := by
  refine readStringWithin_printed t rest ?_
  have hlength := length_le_length_printed t
  rw [List.length_append]
  omega

/-- What stands behind a printed string stands behind its closing mark. -/
theorem quote_append (t rest : Text) :
    quote t ++ rest = '"' :: (t.flatMap escapeChar ++ '"' :: rest) := by
  simp [quote]

/-- **A string is read as it is printed**, whatever characters it has. -/
theorem reads_quote (depth : Nat) (t : Text) : Reader.string.Reads depth (quote t) t := by
  intro rest
  rw [quote_append, Reader.string, skipSpace_cons (by decide)]
  simp only [if_pos]
  exact readString_printed t rest

/-- A value that is printed as a string is read if its text can be parsed. -/
theorem reads_parsed {α : Type} {expected : Text} {parse : Text → Except Problem α} (depth : Nat)
    {t : Text} {x : α} (h : parse t = .ok x) :
    (Reader.parsed expected parse).Reads depth (quote t) x := by
  intro rest
  rw [quote_append, Reader.parsed, skipSpace_cons (by decide)]
  simp only [if_pos, readString_printed, bind, Except.bind, h]
  rfl

theorem passesBlank_string : Reader.string.PassesBlank := by
  intro depth t
  rw [Reader.string, Reader.string, skipSpace_blank]

theorem passesBlank_parsed {α : Type} (expected : Text) (parse : Text → Except Problem α) :
    (Reader.parsed expected parse).PassesBlank := by
  intro depth t
  rw [Reader.parsed, Reader.parsed, skipSpace_blank]

/-- What is no `null` is read as something. -/
theorem reads_optional {α : Type} {reader : Reader α} {depth : Nat} {c : Char} {t : Text} {x : α}
    (hspace : isSpace c = false) (hnull : c ≠ 'n') (h : reader.Reads depth (c :: t) x) :
    (Reader.optional reader).Reads depth (c :: t) (some x) := by
  intro rest
  have hread := h rest
  rw [List.cons_append] at hread
  rw [List.cons_append, Reader.optional, skipSpace_cons hspace]
  split
  next heq => exact absurd (List.cons.inj heq).1 hnull
  next heq =>
    rw [hread]
    rfl

/-! ## 3. Lists of strings -/

/-- The items behind the first one, each with the comma before it. -/
def moreItems (level : Nat) (items : List Json) : Text :=
  items.flatMap fun item => ',' :: (newLine level ++ prettyAt level item)

/-- The first item stands on a line of its own, and each other one behind a comma. -/
theorem prettyItems_cons (level : Nat) (item : Json) (items : List Json) :
    prettyItems level (item :: items) =
      newLine level ++ (prettyAt level item ++ moreItems level items) := by
  induction items generalizing item with
  | nil => simp [prettyItems, moreItems]
  | cons next items ih =>
    rw [prettyItems, ih, moreItems, moreItems, List.flatMap_cons]
    · simp
    · simp

/-- Every item has at least its comma, so the text is fuel enough for the items. -/
theorem length_le_length_moreItems (level : Nat) (items : List Json) :
    items.length ≤ (moreItems level items).length := by
  induction items with
  | nil => simp
  | cons item items ih =>
    rw [moreItems, List.flatMap_cons, ← moreItems, List.cons_append, List.length_cons,
      List.length_cons, List.length_append]
    omega

theorem nextItem_first (level : Nat) (t rest : Text) :
    nextItem true (newLine level ++ (quote t ++ rest)) = .ok (some (quote t ++ rest)) := by
  rw [quote_append, nextItem, skipSpace_newLine, skipSpace_cons (by decide)]
  rfl

/-- Another item is found behind the comma and the line break. -/
theorem nextItem_more (level : Nat) (t rest : Text) :
    nextItem false (',' :: (newLine level ++ (quote t ++ rest))) = .ok (some (quote t ++ rest)) := by
  have hquote : isSpace '"' = false := by decide
  rw [quote_append, nextItem, skipSpace_cons (by decide)]
  simp only [skipSpace_newLine, skipSpace_cons hquote]
  rfl

/-- A list ends at its bracket, whether it has items or not. -/
theorem nextItem_end (first : Bool) (level : Nat) (t : Text) :
    nextItem first (newLine level ++ ']' :: t) = .ok none := by
  rw [nextItem, skipSpace_newLine, skipSpace_cons (by decide)]
  rfl

/-- Where an item is found it is read, and then the others are. -/
theorem readItems_cons {fuel depth : Nat} {first : Bool} {t item rest : Text}
    (h : nextItem first t = .ok (some (quote item ++ rest))) :
    readItems (Reader.string depth) (fuel + 1) first t =
      (readItems (Reader.string depth) fuel false rest).map fun read => (item :: read.1, read.2) := by
  rw [readItems, h]
  simp only [bind, Except.bind, reads_quote depth item rest]
  cases readItems (Reader.string depth) fuel false rest <;> rfl

/-- The items behind the first one are read up to the end of the list, by induction on
them. -/
theorem readItems_more {fuel : Nat} (depth level outer : Nat) (items : List Text) (rest : Text)
    (h : items.length < fuel) :
    readItems (Reader.string depth) fuel false
        (moreItems level (items.map .string) ++ (newLine outer ++ ']' :: rest)) =
      .ok (items, newLine outer ++ ']' :: rest) := by
  induction items generalizing fuel with
  -- at the end of the list one unit of fuel goes to the closing bracket
  | nil =>
    obtain ⟨fuel, rfl⟩ := Nat.exists_eq_succ_of_ne_zero (Nat.ne_of_gt h)
    rw [List.map_nil, moreItems, List.flatMap_nil, List.nil_append, readItems, nextItem_end]
    rfl
  | cons item items ih =>
    obtain ⟨fuel, rfl⟩ := Nat.exists_eq_succ_of_ne_zero (Nat.ne_of_gt (Nat.zero_lt_of_lt h))
    have hitems : items.length < fuel := Nat.lt_of_succ_lt_succ h
    have htext : moreItems level ((item :: items).map .string) ++ (newLine outer ++ ']' :: rest) =
        ',' :: (newLine level ++ (quote item ++
          (moreItems level (items.map .string) ++ (newLine outer ++ ']' :: rest)))) := by
      simp [moreItems, prettyAt]
    rw [htext, Nat.succ_eq_add_one, readItems_cons (nextItem_more level item _), ih hitems]
    rfl

/-- A list of strings reads back. -/
theorem reads_strings (depth level : Nat) (items : List Text) :
    (Reader.list .string).Reads (depth + 1) (prettyAt level (.array (items.map .string))) items := by
  intro rest
  cases items with
  | nil =>
    rw [List.map_nil, prettyAt, List.cons_append, Reader.list, skipSpace_cons (by decide)]
    rfl
  | cons item items =>
    have htext : prettyAt level (.array ((item :: items).map .string)) ++ rest =
        '[' :: (newLine (level + 1) ++ (quote item ++
          (moreItems (level + 1) (items.map .string) ++ (newLine level ++ ']' :: rest)))) := by
      rw [List.map_cons, prettyAt, prettyItems_cons]
      simp [prettyAt]
    -- the fuel is the length of the text, and each item has its comma in it
    have hlength : items.length < (newLine (level + 1) ++ (quote item ++
        (moreItems (level + 1) (items.map .string) ++ (newLine level ++ ']' :: rest)))).length := by
      have hmore := length_le_length_moreItems (level + 1) (items.map .string)
      rw [List.length_map] at hmore
      simp only [List.length_append, List.length_cons, newLine]
      omega
    have hclose : closeList (newLine level ++ ']' :: rest) = .ok rest := by
      rw [closeList, skipSpace_newLine, skipSpace_cons (by decide)]
      rfl
    rw [htext, Reader.list, skipSpace_cons (by decide)]
    simp only [if_pos, bind, Except.bind, readItems_cons (nextItem_first (level + 1) item _),
      readItems_more depth (level + 1) level items rest hlength]
    simp only [Except.map, hclose]
    rfl

theorem passesBlank_list {α : Type} (item : Reader α) : (Reader.list item).PassesBlank := by
  intro depth t
  rw [Reader.list, Reader.list, skipSpace_blank]

/-! ## 4. Members of objects -/

/-- The space in an object: in front of each member, and in front of each value. -/
structure Spacing where
  member : Text
  value : Text
  blank : Blank member
  spaces : ∀ c ∈ value, c = ' '

/-- Each member on a line of its own. -/
def Spacing.pretty (level : Nat) : Spacing := ⟨newLine level, [' '], blank_newLine level, by simp⟩

section

variable {α : Type}

/-- A member as it is printed, where its value is printed by `write`. -/
def memberText (spacing : Spacing) (write : α → Text) (member : Text × α) : Text :=
  quote member.1 ++ ':' :: (spacing.value ++ write member.2)

/-- The members behind the first one, each with the comma before it. -/
def moreMembers (spacing : Spacing) (write : α → Text) (members : List (Text × α)) : Text :=
  members.flatMap fun member => ',' :: (spacing.member ++ memberText spacing write member)

/-- A member and those behind it, in front of what comes next. -/
def membersText (spacing : Spacing) (write : α → Text) (member : Text × α)
    (members : List (Text × α)) (behind : Text) : Text :=
  spacing.member ++
    (memberText spacing write member ++ (moreMembers spacing write members ++ behind))

variable (spacing : Spacing) (write : α → Text) (member : Text × α) (members : List (Text × α))
  (behind : Text)

theorem moreMembers_cons : moreMembers spacing write (member :: members) ++ behind =
    ',' :: membersText spacing write member members behind := by
  simp [moreMembers, membersText]

/-- Members are printed alike if their values are. -/
theorem membersText_map {β : Type} (f : β → α) (member : Text × β) (members : List (Text × β)) :
    membersText spacing write (member.1, f member.2)
        (members.map fun member => (member.1, f member.2)) behind =
      membersText spacing (fun x => write (f x)) member members behind := by
  rw [membersText, moreMembers, List.flatMap_map]
  rfl

/-- Each member has at least its comma, or its quotes. -/
theorem length_lt_length_membersText :
    members.length < (membersText spacing write member members behind).length := by
  have hmore : members.length ≤ (moreMembers spacing write members).length := by
    induction members with
    | nil => simp
    | cons next members ih =>
      rw [moreMembers, List.flatMap_cons, ← moreMembers, List.cons_append, List.length_cons,
        List.length_cons, List.length_append]
      omega
  simp only [membersText, memberText, quote, List.length_append, List.length_cons]
  omega

/-- Where the name of the next member is found. -/
theorem nextName_first : nextName true (membersText spacing write member members behind) =
    .ok (some (member.1.flatMap escapeChar ++ '"' :: ':' :: (spacing.value ++
      (write member.2 ++ (moreMembers spacing write members ++ behind))))) := by
  rw [membersText, memberText, List.append_assoc, quote_append, nextName,
    skipSpace_append spacing.blank, skipSpace_cons (by decide), List.cons_append, List.append_assoc]
  rfl

/-- Behind a comma the name of the next member is found. -/
theorem nextName_more : nextName false (',' :: membersText spacing write member members behind) =
    .ok (some (member.1.flatMap escapeChar ++ '"' :: ':' :: (spacing.value ++
      (write member.2 ++ (moreMembers spacing write members ++ behind))))) := by
  have hquote : isSpace '"' = false := by decide
  rw [membersText, memberText, List.append_assoc, quote_append, nextName,
    skipSpace_cons (by decide)]
  simp only [skipSpace_append spacing.blank, skipSpace_cons hquote]
  rw [List.cons_append, List.append_assoc]
  rfl

end

/-- The pretty form of members is the form with a line break before each of them. -/
theorem prettyMembers_cons (level : Nat) (member : Text × Json) (members : List (Text × Json))
    (behind : Text) :
    prettyMembers level (member :: members) ++ behind =
      membersText (.pretty level) (prettyAt level) member members behind := by
  induction members generalizing member with
  | nil => simp [prettyMembers, membersText, moreMembers, memberText, Spacing.pretty]
  | cons next members ih =>
    rw [prettyMembers, List.append_assoc, List.cons_append, ih]
    · simp [membersText, moreMembers, memberText, Spacing.pretty]
    · simp

/-- An object as it is printed over lines. -/
theorem prettyAt_object (level : Nat) (member : Text × Json) (members : List (Text × Json))
    (rest : Text) :
    prettyAt level (.object (member :: members)) ++ rest =
      '{' :: membersText (.pretty (level + 1)) (prettyAt (level + 1)) member members
        (newLine level ++ '}' :: rest) := by
  rw [prettyAt, ← prettyMembers_cons]
  simp

/-- An object ends at its brace, whether it has members or not. -/
theorem nextName_end {gap : Text} (first : Bool) (h : Blank gap) (t : Text) :
    nextName first (gap ++ '}' :: t) = .ok none := by
  rw [nextName, skipSpace_append h, skipSpace_cons (by decide)]
  rfl

theorem readColon_colon (t : Text) : readColon (':' :: t) = .ok t := by
  rw [readColon, skipSpace_cons (by decide)]
  rfl

theorem closeObject_end {gap : Text} (h : Blank gap) (t : Text) :
    closeObject (gap ++ '}' :: t) = .ok t := by
  rw [closeObject, skipSpace_append h, skipSpace_cons (by decide)]
  rfl

/-! ## 5. Dictionaries -/

/-- A reader passes over any number of blanks. -/
theorem Reader.PassesBlank.append {α : Type} {reader : Reader α} (h : reader.PassesBlank)
    {spaces : Text} (hspaces : ∀ c ∈ spaces, c = ' ') (depth : Nat) (t : Text) :
    reader depth (spaces ++ t) = reader depth t := by
  induction spaces with
  | nil => rfl
  | cons c spaces ih =>
    obtain ⟨hc, hrest⟩ := List.forall_mem_cons.1 hspaces
    rw [hc, List.cons_append, h, ih hrest]

section

variable {α : Type} {member : Reader α} {spacing : Spacing} {write : α → Text} {depth : Nat}
  {gap : Text}

/-- Where a name is found, its value is read and put into the dictionary. -/
theorem readMembers_cons {fuel : Nat} {first : Bool} {t rest : Text} {pair : Text × α}
    {members : Dictionary Text α} (hblank : member.PassesBlank)
    (hread : member.Reads depth (write pair.2) pair.2)
    (h : nextName first t = .ok (some (pair.1.flatMap escapeChar ++
      '"' :: ':' :: (spacing.value ++ (write pair.2 ++ rest))))) :
    readMembers (member depth) (fuel + 1) first members t =
      readMembers (member depth) fuel false (Dictionary.insert members pair.1 pair.2) rest := by
  have hvalue : member depth (spacing.value ++ (write pair.2 ++ rest)) = .ok (pair.2, rest) := by
    rw [hblank.append spacing.spaces]
    exact hread rest
  rw [readMembers, h]
  simp only [bind, Except.bind, readString_printed, readColon_colon, hvalue]

/-- The members behind the first one are read up to the end of the object. The induction is on
the members, over whatever dictionary they are put into. -/
theorem readMembers_more {fuel : Nat} (hblank : member.PassesBlank) (hgap : Blank gap)
    (pairs : List (Text × α)) (members : Dictionary Text α) (rest : Text)
    (hread : ∀ pair ∈ pairs, member.Reads depth (write pair.2) pair.2)
    (h : pairs.length < fuel) :
    readMembers (member depth) fuel false members
        (moreMembers spacing write pairs ++ (gap ++ '}' :: rest)) =
      .ok (pairs.foldl (fun members pair => Dictionary.insert members pair.1 pair.2) members,
        gap ++ '}' :: rest) := by
  induction pairs generalizing fuel members with
  | nil =>
    obtain ⟨fuel, rfl⟩ := Nat.exists_eq_succ_of_ne_zero (Nat.ne_of_gt h)
    rw [moreMembers, List.flatMap_nil, List.nil_append, readMembers, nextName_end false hgap]
    rfl
  | cons pair pairs ih =>
    obtain ⟨fuel, rfl⟩ := Nat.exists_eq_succ_of_ne_zero (Nat.ne_of_gt (Nat.zero_lt_of_lt h))
    obtain ⟨hpair, hpairs⟩ := List.forall_mem_cons.1 hread
    have hlength : pairs.length < fuel := Nat.lt_of_succ_lt_succ h
    -- the member that is read is inserted behind those read before, as the fold inserts it
    have hnext := nextName_more spacing write pair pairs (gap ++ '}' :: rest)
    rw [moreMembers_cons, Nat.succ_eq_add_one, readMembers_cons hblank hpair hnext,
      ih (Dictionary.insert members pair.1 pair.2) hpairs hlength, List.foldl_cons]

/-- **The members of an object read back**, if every name stands among them once. -/
theorem readMembers_printed (spacing : Spacing) (write : α → Text) {pair : Text × α}
    {pairs : List (Text × α)} {t rest : Text} (hblank : member.PassesBlank) (hgap : Blank gap)
    (hdistinct : (Dictionary.keys (pair :: pairs)).Nodup)
    (hread : ∀ other ∈ pair :: pairs, member.Reads depth (write other.2) other.2)
    (ht : t = membersText spacing write pair pairs (gap ++ '}' :: rest)) :
    readMembers (member depth) (t.length + 1) true [] t =
      .ok (pair :: pairs, gap ++ '}' :: rest) := by
  obtain ⟨hpair, hpairs⟩ := List.forall_mem_cons.1 hread
  have hlength := length_lt_length_membersText spacing write pair pairs (gap ++ '}' :: rest)
  have hfirst := nextName_first spacing write pair pairs (gap ++ '}' :: rest)
  rw [← ht] at hlength hfirst
  -- the reader inserts pair by pair, which gives the pairs again as no key comes twice
  have hself : pairs.foldl (fun members pair => Dictionary.insert members pair.1 pair.2)
      (Dictionary.insert [] pair.1 pair.2) = pair :: pairs :=
    Dictionary.ofPairs_eq_self hdistinct
  rw [readMembers_cons hblank hpair hfirst,
    readMembers_more hblank hgap pairs _ rest hpairs hlength, hself]

/-- A dictionary reads back, if every key stands in it once. -/
theorem reads_dictionary (level : Nat) (write : α → Json) (hblank : member.PassesBlank)
    {pairs : Dictionary Text α} (hdistinct : (Dictionary.keys pairs).Nodup)
    (hread : ∀ pair ∈ pairs, member.Reads depth (prettyAt (level + 1) (write pair.2)) pair.2) :
    (Reader.dictionary member).Reads (depth + 1)
      (prettyAt level (.object (pairs.map fun pair => (pair.1, write pair.2)))) pairs := by
  intro rest
  rw [Reader.dictionary]
  cases pairs with
  | nil =>
    rw [List.map_nil, prettyAt, List.cons_append, skipSpace_cons (by decide)]
    rfl
  | cons pair pairs =>
    -- the reader takes its fuel from the text, so the text is kept as a variable here
    have hmembers : ∀ t : Text, t = membersText (.pretty (level + 1))
        (fun x => prettyAt (level + 1) (write x)) pair pairs (newLine level ++ '}' :: rest) →
        readMembers (member depth) (t.length + 1) true [] t =
          .ok (pair :: pairs, newLine level ++ '}' :: rest) :=
      fun t ht => readMembers_printed _ _ hblank (blank_newLine level) hdistinct hread ht
    rw [List.map_cons, prettyAt_object, membersText_map, skipSpace_cons (by decide)]
    simp only [if_pos, bind, Except.bind, hmembers _ rfl, closeObject_end (blank_newLine level)]
    rfl

end

theorem passesBlank_dictionary {α : Type} (member : Reader α) :
    (Reader.dictionary member).PassesBlank := by
  intro depth t
  rw [Reader.dictionary, Reader.dictionary, skipSpace_blank]

/-! ## 6. Records -/

section

variable {σ α β : Type} {shape : Shape σ α} {depth level : Nat}

/-- The fields of a record are read one after the other from the members. -/
inductive Shape.Fills (shape : Shape σ α) (depth level : Nat) : σ → List (Text × Json) → σ → Prop
  | nil (state : σ) : Fills shape depth level state [] state
  | cons {state between after : σ} {name : Text} {value : Json} {members : List (Text × Json)}
      (field : Field σ) (hfind : shape.fields.find? (fun field => field.name = name) = some field)
      (hunset : field.isSet state = false)
      (hread : ∀ rest, field.read state depth (' ' :: (prettyAt level value ++ rest)) =
        .ok (between, rest))
      (rest : Fills shape depth level between members after) :
      Fills shape depth level state ((name, value) :: members) after

/-- A field reads what its reader reads. -/
theorem Field.read_make {name t : Text} {get : σ → Option β} {set : σ → β → σ} {reader : Reader β}
    {fillable : Bool} {state : σ} {x : β} (hblank : reader.PassesBlank)
    (hread : reader.Reads depth t x) (rest : Text) :
    (Field.make name get set reader fillable).read state depth (' ' :: (t ++ rest)) =
      .ok (set state x, rest) := by
  simp only [Field.make, hblank depth (t ++ rest), hread rest, bind, Except.bind]
  rfl

/-- A value that is read well is left as it is when its fault would be placed. -/
theorem placed_ok {γ : Type} (x : γ) : Shape.placed (.ok x) = .ok x := rfl

/-- Where the name of a field is found that is not set yet, its value is read and set. -/
theorem readFields_cons {fuel : Nat} {first : Bool} {state between : σ} {name t rest : Text}
    {value : Json} {field : Field σ}
    (hfind : shape.fields.find? (fun field => field.name = name) = some field)
    (hunset : field.isSet state = false)
    (hread : ∀ rest, field.read state depth (' ' :: (prettyAt level value ++ rest)) =
      .ok (between, rest))
    (h : nextName first t = .ok (some (name.flatMap escapeChar ++
      '"' :: ':' :: ((Spacing.pretty level).value ++ (prettyAt level value ++ rest))))) :
    shape.readFields depth (fuel + 1) first state t =
      shape.readFields depth fuel false between rest := by
  have hfield : field.read state depth
      ((Spacing.pretty level).value ++ (prettyAt level value ++ rest)) = .ok (between, rest) :=
    hread rest
  rw [Shape.readFields, h]
  simp only [placed_ok, bind, Except.bind, readString_printed, hfind, hunset,
    readColon_colon, hfield]
  rfl

/-- The fields behind the first one are read up to the end of the record, by induction on what
fills the shape. -/
theorem readFields_more {fuel : Nat} (outer : Nat) {state after : σ} {members : List (Text × Json)}
    (rest : Text) (hfills : shape.Fills depth level state members after)
    (h : members.length < fuel) :
    shape.readFields depth fuel false state
        (moreMembers (.pretty level) (prettyAt level) members ++ (newLine outer ++ '}' :: rest)) =
      .ok (after, newLine outer ++ '}' :: rest) := by
  induction hfills generalizing fuel with
  | nil state =>
    obtain ⟨fuel, rfl⟩ := Nat.exists_eq_succ_of_ne_zero (Nat.ne_of_gt h)
    rw [moreMembers, List.flatMap_nil, List.nil_append, Shape.readFields,
      nextName_end false (blank_newLine outer)]
    rfl
  | @cons state between after name value members field hfind hunset hread _ ih =>
    obtain ⟨fuel, rfl⟩ := Nat.exists_eq_succ_of_ne_zero (Nat.ne_of_gt (Nat.zero_lt_of_lt h))
    have hlength : members.length < fuel := Nat.lt_of_succ_lt_succ h
    have hnext := nextName_more (.pretty level) (prettyAt level) (name, value) members
      (newLine outer ++ '}' :: rest)
    rw [moreMembers_cons, Nat.succ_eq_add_one, readFields_cons hfind hunset hread hnext, ih hlength]

/-- **Records read back**, if their members fill the fields. -/
theorem reads_shape (state : σ) {member : Text × Json} {members : List (Text × Json)} {x : α}
    (hfills : shape.Fills depth (level + 1) shape.start (member :: members) state)
    (hfinish : shape.finish state = .ok x) :
    shape.reader.Reads (depth + 1) (prettyAt level (.object (member :: members))) x := by
  intro rest
  have hlength := length_lt_length_membersText (.pretty (level + 1)) (prettyAt (level + 1)) member
    members (newLine level ++ '}' :: rest)
  have hopen : isSpace '{' = false := by decide
  -- the first member has no comma before it, unlike those behind it
  cases hfills with
  | @cons _ between _ name value _ field hfind hunset hread hrest =>
    have hfields : ∀ t : Text, t = membersText (.pretty (level + 1)) (prettyAt (level + 1))
        (name, value) members (newLine level ++ '}' :: rest) →
        shape.readFields depth (t.length + 1) true shape.start t =
          .ok (state, newLine level ++ '}' :: rest) := by
      rintro t rfl
      have hnext := nextName_first (.pretty (level + 1)) (prettyAt (level + 1)) (name, value)
        members (newLine level ++ '}' :: rest)
      rw [readFields_cons hfind hunset hread hnext, readFields_more level rest hrest hlength]
    rw [prettyAt_object, Shape.reader, skipSpace_cons hopen]
    simp only [if_pos, bind, Except.bind, hfields _ rfl, Shape.finishAt, hfinish,
      closeObject_end (blank_newLine level)]
    rfl

theorem passesBlank_shape (shape : Shape σ α) : shape.reader.PassesBlank := by
  intro depth t
  rw [Shape.reader, Shape.reader, skipSpace_blank]

end

end MarkupDesk.Json
