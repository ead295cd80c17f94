/-
`Proofs/Toml/Members.lean` -- what can be relied on in a table that was read.

No key stands twice in the outermost table, and the integers in it fit 64 bits with a sign (`Sound`).
Statements can only come with integers that were checked (`statements_fit`). A statement adds a member
with a new key to the table or changes what is below one, which is a table again; so both properties
are kept from statement to statement (`sound_of_parse`).
-/
import MarkupDesk.Proofs.Dictionary
import MarkupDesk.Proofs.Json.Yield
import MarkupDesk.Toml.Assembly

set_option autoImplicit false

namespace MarkupDesk.Toml

open Json (KeyedBy exists_of_bind_ok)

variable {ε ε' α β : Type} {t rest : Text} {value : Toml} {members members' : Members} {key : Text}

/-! ## 1. Results of readers -/

theorem map_eq_ok {x : Except ε α} {f : α → β} {y : β} :
    x.map f = .ok y ↔ ∃ a, x = .ok a ∧ f a = y := by
  cases x with
  | error problem => simp [Except.map]
  | ok a => simp [Except.map]

theorem mapError_eq_ok {x : Except ε α} {f : ε → ε'} {y : α} : x.mapError f = .ok y ↔ x = .ok y := by
  cases x with
  | error problem => simp [Except.mapError]
  | ok a => simp [Except.mapError]

/-- What one of two readers gives was given by the one or by the other. -/
theorem orElse_eq_ok {read other : Reader α} {found : α × Text} (h : read.orElse other t = .ok found) :
    read t = .ok found ∨ other t = .ok found := by
  rw [Reader.orElse] at h
  split at h
  next hread => exact .inl (h ▸ hread)
  next =>
    split at h
    · cases h
    · exact .inr h

/-! ## 2. Integers -/

/-- The value is no integer that needs more than 64 bits with a sign. -/
def Fits (value : Toml) : Prop := ∀ z, value = .integer z → z ≤ (maxInteger : Int)

theorem fits_of_ne (h : ∀ z, value ≠ .integer z) : Fits value := fun z hz => absurd hz (h z)

/-- An integer that was checked fits. -/
theorem checkInteger_fits {z : Int} (h : checkInteger t z = .ok value) : Fits value := by
  rw [checkInteger] at h
  split at h
  · cases h
  split at h
  · cases h
  next hlarge _ =>
    intro z' hz
    obtain rfl := Except.ok.inj h
    obtain rfl := Toml.integer.inj hz
    have hlimit : Number.pow2 63 = 9223372036854775808 := rfl
    rw [maxInteger, hlimit]
    rw [hlimit] at hlarge
    omega

/-- An integer that was read was checked. -/
theorem readInteger_fits (h : readInteger t = .ok (value, rest)) : Fits value := by
  -- whatever the base, the value is checked at the end
  have hcheck : ∀ {found : Int × Text}, (do
      let checked ← checkInteger t found.1
      .ok (checked, found.2) : Except Fault (Toml × Text)) = .ok (value, rest) → Fits value := by
    intro found h
    obtain ⟨checked, hchecked, h⟩ := exists_of_bind_ok h
    obtain ⟨rfl, -⟩ := Prod.mk.inj (Except.ok.inj h)
    exact checkInteger_fits hchecked
  unfold readInteger at h
  split at h
  · obtain ⟨_, -, h⟩ := exists_of_bind_ok h
    exact hcheck h
  · obtain ⟨_, -, h⟩ := exists_of_bind_ok h
    exact hcheck h
  · obtain ⟨_, -, h⟩ := exists_of_bind_ok h
    exact hcheck h
  · obtain ⟨_, -, h⟩ := exists_of_bind_ok h
    obtain ⟨_, -, h⟩ := exists_of_bind_ok h
    exact hcheck h

/-- A float is no integer. -/
theorem readFloat_fits (h : readFloat t = .ok (value, rest)) : Fits value := by
  obtain ⟨_, -, h⟩ := map_eq_ok.1 h
  obtain ⟨rfl, -⟩ := Prod.mk.inj h
  intro z hz
  cases hz

/-- A number that was read fits: only one of its readers gives integers. -/
theorem readNumber_fits (h : readNumber t = .ok (value, rest)) : Fits value := by
  rcases orElse_eq_ok h with htime | h
  · obtain ⟨_, -, h⟩ := map_eq_ok.1 htime
    obtain ⟨rfl, -⟩ := Prod.mk.inj h
    intro z hz
    cases hz
  rcases orElse_eq_ok h with hfloat | hinteger
  · exact readFloat_fits hfloat
  · exact readInteger_fits hinteger

theorem readName_fits {name : Text} (hfits : Fits value) {x : Toml}
    (h : readName name value t = .ok (x, rest)) : Fits x := by
  obtain ⟨_, -, h⟩ := map_eq_ok.1 h
  obtain ⟨rfl, -⟩ := Prod.mk.inj h
  exact hfits

/-- **An integer that is read fits**, for it was checked. -/
theorem readValue_fits {depth : Nat} (h : readValue depth t = .ok (value, rest)) : Fits value := by
  -- the first character decides: strings, arrays and tables are no integers
  rw [readValue.eq_def] at h
  split at h
  · cases h
  split at h
  · obtain ⟨_, -, h⟩ := map_eq_ok.1 h
    obtain ⟨rfl, -⟩ := Prod.mk.inj h
    exact fits_of_ne fun z hz => by cases hz
  split at h
  · split at h
    · cases h
    · obtain ⟨_, -, h⟩ := exists_of_bind_ok (mapError_eq_ok.1 h)
      obtain ⟨_, -, h⟩ := exists_of_bind_ok h
      obtain ⟨rfl, -⟩ := Prod.mk.inj (Except.ok.inj h)
      exact fits_of_ne fun z hz => by cases hz
  split at h
  · split at h
    · cases h
    · obtain ⟨_, -, h⟩ := exists_of_bind_ok (mapError_eq_ok.1 h)
      simp only at h
      split at h
      · cases h
      · obtain ⟨_, -, h⟩ := exists_of_bind_ok h
        obtain ⟨rfl, -⟩ := Prod.mk.inj (Except.ok.inj h)
        exact fits_of_ne fun z hz => by cases hz
  -- signs, digits, underscores and periods belong to numbers, and letters to names
  split at h
  · exact readNumber_fits h
  split at h
  · exact readInteger_fits (mapError_eq_ok.1 h)
  split at h
  · exact readFloat_fits (mapError_eq_ok.1 h)
  split at h
  · exact readName_fits (fits_of_ne fun z hz => by cases hz) (mapError_eq_ok.1 h)
  split at h
  · exact readName_fits (fits_of_ne fun z hz => by cases hz) (mapError_eq_ok.1 h)
  split at h
  · exact readName_fits (fits_of_ne fun z hz => by cases hz) h
  · exact readName_fits (fits_of_ne fun z hz => by cases hz) h

/-- The value of the statement, if it has one, fits. -/
def Statement.Fits : Statement → Prop
  | .pair _ value _ => Toml.Fits value
  | _ => True

/-- The value of a pair that was read fits. -/
theorem readPair_fits {depth : Nat} {ending : Reader Unit} {pair : Pair}
    (h : readPair (readValue depth) ending t = .ok (pair, rest)) : Fits pair.value := by
  obtain ⟨⟨path, _⟩, -, h⟩ := exists_of_bind_ok h
  obtain ⟨_, -, h⟩ := exists_of_bind_ok h
  obtain ⟨⟨⟨x, span⟩, _⟩, hspanned, h⟩ := exists_of_bind_ok h
  obtain ⟨_, -, h⟩ := exists_of_bind_ok h
  obtain ⟨rfl, -⟩ := Prod.mk.inj (Except.ok.inj h)
  obtain ⟨⟨y, _⟩, hvalue, h⟩ := exists_of_bind_ok (mapError_eq_ok.1 hspanned)
  obtain ⟨hx, -⟩ := Prod.mk.inj (Except.ok.inj h)
  obtain ⟨rfl, -⟩ := Prod.mk.inj hx
  exact readValue_fits hvalue

/-- The integers of a statement that was read fit. Only a pair has a value, all other
statements fit anyway. -/
theorem readStatement_fits {statement : Option Statement} (h : readStatement t = .ok (statement, rest)) :
    ∀ s ∈ statement, s.Fits := by
  unfold readStatement at h
  split at h
  · obtain ⟨_, -, h⟩ := map_eq_ok.1 h
    obtain ⟨rfl, -⟩ := Prod.mk.inj h
    intro s hs
    obtain rfl := Option.some.inj hs
    trivial
  · cases h
  · obtain ⟨_, -, h⟩ := map_eq_ok.1 h
    obtain ⟨rfl, -⟩ := Prod.mk.inj h
    intro s hs
    obtain rfl := Option.some.inj hs
    trivial
  · obtain ⟨_, -, h⟩ := map_eq_ok.1 h
    obtain ⟨rfl, -⟩ := Prod.mk.inj h
    intro s hs
    cases hs
  · split at h
    · obtain ⟨rfl, -⟩ := Prod.mk.inj (Except.ok.inj h)
      intro s hs
      cases hs
    · split at h
      · cases h
      · obtain ⟨⟨pair, _⟩, hpair, h⟩ := map_eq_ok.1 h
        obtain ⟨rfl, -⟩ := Prod.mk.inj h
        intro s hs
        obtain rfl := Option.some.inj hs
        -- the value of a pair is the one that can be an integer
        exact readPair_fits hpair

/-- The integers of all statements fit, by induction on the text that is read. -/
theorem readStatements_fit (fuel : Nat) (t : Text) : ∀ s ∈ (readStatements fuel t).1, s.Fits := by
  induction fuel generalizing t with
  | zero =>
    intro s hs
    cases hs
  | succ fuel ih =>
    rw [readStatements]
    split
    · intro s hs
      cases hs
    · split
      · intro s hs
        cases hs
      next statement rest hread =>
        intro s hs
        rcases List.mem_append.1 hs with hs | hs
        · exact readStatement_fits hread s (Option.mem_toList.1 hs)
        · exact ih rest s hs

/-! ## 3. Tables -/

/-- Every key stands once, and the integers fit. -/
def Sound (members : Members) : Prop := KeyedBy (fun placed => Fits placed.value) members

variable {placed : Placed Toml} {span : Span} {pairs : List Pair} {statements : List Statement}
  {header : Header}

theorem sound_nil : Sound [] := ⟨List.nodup_nil, fun _ hmem => by cases hmem⟩

theorem Sound.concat (h : Sound members) (hkey : Dictionary.get? members key = none)
    (hfits : Fits placed.value) : Sound (members ++ [(key, placed)]) := by
  rw [← Dictionary.insert_of_notMem (Dictionary.get?_eq_none_iff.1 hkey)]
  exact KeyedBy.insert h key hfits

theorem Sound.erase (h : Sound members) (key : Text) : Sound (Dictionary.erase members key) := by
  obtain ⟨hkeys, hfits⟩ := h
  have hsublist : (Dictionary.erase members key).Sublist members := List.filter_sublist
  exact ⟨hkeys.sublist (hsublist.map _), fun pair hpair => hfits pair (hsublist.subset hpair)⟩

theorem fits_table (origin : TableOrigin) (inner : Members) : Fits (.table origin inner) :=
  fits_of_ne fun z hz => by cases hz

theorem fits_tables (items : List Members) : Fits (.tables items) := fits_of_ne fun z hz => by cases hz

/-- Putting in a value adds it to the table, or changes a table below. -/
theorem insertAt_sound {last : Key} {table : Option (List Text)} {way outer : List Key}
    (hmembers : Sound members) (hvalue : Fits value)
    (h : insertAt value span last table way outer members = .ok members') : Sound members' := by
  -- with nothing of the path left the value itself goes in, and else one step leads on
  cases outer with
  | nil =>
    rw [insertAt] at h
    split at h
    · cases h
    next hnone =>
      obtain rfl := Except.ok.inj h
      refine hmembers.concat ?_ hvalue
      simpa [hasKey] using hnone
  | cons part outer =>
    rw [insertAt] at h
    split at h
    next hnone =>
      obtain ⟨_, -, h⟩ := exists_of_bind_ok h
      obtain rfl := Except.ok.inj h
      exact hmembers.concat hnone (fits_table _ _)
    next =>
      obtain ⟨_, -, h⟩ := exists_of_bind_ok h
      obtain rfl := Except.ok.inj h
      exact KeyedBy.insert hmembers _ (fits_table _ _)
    next =>
      split at h
      · cases h
      · obtain ⟨_, -, h⟩ := exists_of_bind_ok h
        obtain rfl := Except.ok.inj h
        exact KeyedBy.insert hmembers _ (fits_table _ _)
    next => cases h
    next => split at h <;> cases h
    next =>
      split at h
      · cases h
      · split at h
        · cases h
        · obtain ⟨_, -, h⟩ := exists_of_bind_ok h
          obtain rfl := Except.ok.inj h
          exact KeyedBy.insert hmembers _ (fits_tables _)
    next => cases h

/-- Putting in pairs that fit keeps the table sound, pair by pair. -/
theorem insertPairs_sound {path : List Text} (hmembers : Sound members)
    (hpairs : ∀ pair ∈ pairs, Fits pair.value) (h : insertPairs path pairs members = .ok members') :
    Sound members' := by
  induction pairs generalizing members with
  | nil =>
    obtain rfl := Except.ok.inj h
    exact hmembers
  | cons pair pairs ih =>
    rw [insertPairs, List.foldlM_cons] at h
    obtain ⟨between, hinsert, h⟩ := exists_of_bind_ok h
    have hbetween := insertAt_sound hmembers (hpairs pair List.mem_cons_self) (mapError_eq_ok.1 hinsert)
    exact ih hbetween (fun other hother => hpairs other (List.mem_cons_of_mem _ hother)) h

/-- Opening a table puts it at the end, as a new member or in place of one that was implied. -/
theorem openTable_sound (hmembers : Sound members) (h : openTable header pairs members = .ok members') :
    Sound members' := by
  unfold openTable at h
  simp only at h
  split at h
  next hnone =>
    obtain ⟨_, -, h⟩ := exists_of_bind_ok h
    obtain rfl := Except.ok.inj h
    exact hmembers.concat hnone (fits_table _ _)
  next =>
    obtain ⟨_, -, h⟩ := exists_of_bind_ok h
    obtain rfl := Except.ok.inj h
    exact (hmembers.erase _).concat (Dictionary.get?_erase_self _ _) (fits_table _ _)
  next => cases h

/-- Opening one more table of a list keeps the table sound. -/
theorem openRepeated_sound (hmembers : Sound members)
    (h : openRepeated header pairs members = .ok members') : Sound members' := by
  unfold openRepeated at h
  simp only at h
  split at h
  next hnone =>
    obtain ⟨_, -, h⟩ := exists_of_bind_ok h
    obtain rfl := Except.ok.inj h
    exact hmembers.concat hnone (fits_tables _)
  next =>
    obtain ⟨_, -, h⟩ := exists_of_bind_ok h
    obtain rfl := Except.ok.inj h
    exact KeyedBy.insert hmembers _ (fits_tables _)
  next => cases h

/-- A change at a path is one of the table itself, or of a table below it, which is no integer
whatever becomes of it. -/
theorem changeAt_sound {change : Members → Except Fault Members} {way path : List Key}
    (hmembers : Sound members)
    (hchange : ∀ {members members'}, Sound members → change members = .ok members' → Sound members')
    (h : changeAt header change way path members = .ok members') : Sound members' := by
  cases path with
  | nil => exact hchange hmembers h
  | cons part path =>
    rw [changeAt] at h
    split at h
    -- the table below is made here
    next hnone =>
      obtain ⟨_, -, h⟩ := exists_of_bind_ok h
      obtain rfl := Except.ok.inj h
      exact hmembers.concat hnone (fits_table _ _)
    next => cases h
    next =>
      obtain ⟨_, -, h⟩ := exists_of_bind_ok h
      obtain rfl := Except.ok.inj h
      exact KeyedBy.insert hmembers _ (fits_table _ _)
    next =>
      split at h
      · cases h
      · obtain ⟨_, -, h⟩ := exists_of_bind_ok h
        obtain rfl := Except.ok.inj h
        exact KeyedBy.insert hmembers _ (fits_tables _)
    next => cases h

/-- **Statement by statement the table stays sound.** The induction is on the fuel, which
counts the statements. -/
theorem addTables_sound {fuel : Nat} (hmembers : Sound members)
    (h : addTables fuel statements members = .ok members') : Sound members' := by
  induction fuel generalizing statements members with
  | zero =>
    obtain rfl := Except.ok.inj h
    exact hmembers
  | succ fuel ih =>
    cases statements with
    | nil =>
      obtain rfl := Except.ok.inj h
      exact hmembers
    | cons statement statements =>
      cases statement with
      | header path span =>
        rw [addTables] at h
        obtain ⟨_, hchange, h⟩ := exists_of_bind_ok h
        exact ih (changeAt_sound hmembers openTable_sound hchange) h
      | repeatedHeader path span =>
        rw [addTables] at h
        obtain ⟨_, hchange, h⟩ := exists_of_bind_ok h
        exact ih (changeAt_sound hmembers openRepeated_sound hchange) h
      -- pairs in front of a table were taken before
      | pair path value span => exact ih hmembers h

/-- The pairs in front fit as all statements do. -/
theorem takePairs_fit (h : ∀ s ∈ statements, s.Fits) : ∀ pair ∈ (takePairs statements).1, Fits pair.value := by
  induction statements with
  | nil =>
    intro pair hpair
    cases hpair
  | cons statement statements ih =>
    cases statement with
    | pair path value span =>
      intro pair hpair
      rw [takePairs] at hpair
      rcases List.mem_cons.1 hpair with rfl | hlater
      · exact h _ List.mem_cons_self
      · exact ih (fun s hs => h s (List.mem_cons_of_mem _ hs)) pair hlater
    | header path span =>
      intro pair hpair
      cases hpair
    | repeatedHeader path span =>
      intro pair hpair
      cases hpair

/-- **A table that was read is sound.** -/
theorem sound_of_parse {source : Text} (h : parse source = .ok members) : Sound members := by
  have hfits := readStatements_fit ((dropByteOrderMark source).length + 1) (dropByteOrderMark source)
  obtain ⟨assembled, hassemble, h⟩ := exists_of_bind_ok h
  have hsame : assembled = members := by
    split at h
    · exact Except.ok.inj h
    · cases h
  subst hsame
  obtain ⟨first, hinsert, hadd⟩ := exists_of_bind_ok hassemble
  exact addTables_sound (insertPairs_sound sound_nil (takePairs_fit hfits) hinsert) hadd

end MarkupDesk.Toml
