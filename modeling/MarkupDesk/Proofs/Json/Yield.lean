/-
`Proofs/Json/Yield.lean` -- what readers can give.

A reader `Yields` values of a kind if it gives no others, whatever text it reads. A record
yields what its `finish` makes of the fields, so a property that every field keeps while it
is read is one that the fields have in the end (`yields_shape`).
-/
import MarkupDesk.Json.Shape

set_option autoImplicit false

namespace MarkupDesk.Json

/-- All values that the reader gives have the property. -/
def Reader.Yields {α : Type} (reader : Reader α) (P : α → Prop) : Prop :=
  ∀ depth t x rest, reader depth t = .ok (x, rest) → P x

/-- What two computations in a row give is what the second one gives for the first one's
result. -/
theorem exists_of_bind_ok {ε α β : Type} {first : Except ε α} {rest : α → Except ε β} {y : β}
    (h : first >>= rest = .ok y) : ∃ x, first = .ok x ∧ rest x = .ok y := by
  cases first with
  | error problem => cases h
  | ok x => exact ⟨x, rfl, h⟩

section

variable {α σ : Type} {P : α → Prop} {Inv : σ → Prop}

/-- What a reader yields it yields where its text is all there is. -/
theorem Reader.Yields.run {reader : Reader α} {t : Text} {x : α} (h : reader.Yields P)
    (hrun : reader.run t = .ok x) : P x := by
  obtain ⟨⟨y, rest⟩, hread, hend⟩ := exists_of_bind_ok hrun
  obtain ⟨_, -, hend⟩ := exists_of_bind_ok hend
  rw [← Except.ok.inj hend]
  exact h _ _ _ _ hread

/-- A string that is parsed yields what the parser gives. -/
theorem yields_parsed {expected : Text} {parse : Text → Except Problem α}
    (h : ∀ t x, parse t = .ok x → P x) : (Reader.parsed expected parse).Yields P := by
  intro depth t x rest hread
  unfold Reader.parsed at hread
  split at hread
  · cases hread
  split at hread
  · obtain ⟨⟨text, behind⟩, -, hread⟩ := exists_of_bind_ok hread
    simp only at hread
    split at hread
    next y hparse =>
      obtain ⟨rfl, -⟩ := Prod.mk.inj (Except.ok.inj hread)
      exact h text y hparse
    next => cases hread
  · cases hread

/-- An optional value yields nothing or what its reader yields. -/
theorem yields_optional {reader : Reader α} (h : reader.Yields P) :
    (Reader.optional reader).Yields fun value => ∀ x ∈ value, P x := by
  intro depth t value rest hread x hx
  unfold Reader.optional at hread
  split at hread
  · obtain ⟨_, -, hread⟩ := exists_of_bind_ok hread
    obtain ⟨rfl, -⟩ := Prod.mk.inj (Except.ok.inj hread)
    cases hx
  · obtain ⟨⟨y, behind⟩, hy, hread⟩ := exists_of_bind_ok hread
    obtain ⟨rfl, -⟩ := Prod.mk.inj (Except.ok.inj hread)
    obtain rfl := Option.some.inj hx
    exact h _ _ _ _ hy

/-- In the dictionary every key stands once, and its values have the property. -/
def KeyedBy (P : α → Prop) (members : Dictionary Text α) : Prop :=
  (Dictionary.keys members).Nodup ∧ ∀ pair ∈ members, P pair.2

/-- A dictionary whose values are of a kind has such values when one more is put in. -/
theorem KeyedBy.insert {members : Dictionary Text α} (h : KeyedBy P members) (name : Text) {x : α}
    (hx : P x) : KeyedBy P (Dictionary.insert members name x) := by
  refine ⟨Dictionary.nodup_keys_insert h.1 name x, fun pair hpair => ?_⟩
  rcases Dictionary.eq_or_mem_of_mem_insert hpair with rfl | hmem
  · exact hx
  · exact h.2 pair hmem

/-- The members that are read keep to it, by induction on them. -/
theorem readMembers_keyedBy {member : Text → Except Fault (α × Text)}
    (h : ∀ t x rest, member t = .ok (x, rest) → P x) {fuel : Nat} {first : Bool}
    {members read : Dictionary Text α} {t rest : Text} (hmembers : KeyedBy P members)
    (hread : readMembers member fuel first members t = .ok (read, rest)) : KeyedBy P read := by
  induction fuel generalizing first members t with
  | zero =>
    obtain ⟨rfl, -⟩ := Prod.mk.inj (Except.ok.inj hread)
    exact hmembers
  | succ fuel ih =>
    rw [readMembers] at hread
    obtain ⟨next, -, hread⟩ := exists_of_bind_ok hread
    cases next with
    | none =>
      obtain ⟨rfl, -⟩ := Prod.mk.inj (Except.ok.inj hread)
      exact hmembers
    | some t =>
      obtain ⟨⟨name, _⟩, -, hread⟩ := exists_of_bind_ok hread
      obtain ⟨_, -, hread⟩ := exists_of_bind_ok hread
      obtain ⟨⟨x, _⟩, hx, hread⟩ := exists_of_bind_ok hread
      exact ih (hmembers.insert name (h _ _ _ hx)) hread

/-- **A dictionary yields values of the kind** of its members, and every key once: a member
whose name came before replaces it. -/
theorem yields_dictionary {member : Reader α} (h : member.Yields P) :
    (Reader.dictionary member).Yields (KeyedBy P) := by
  intro depth t members rest hread
  unfold Reader.dictionary at hread
  split at hread
  · cases hread
  split at hread
  · cases depth with
    | zero => cases hread
    | succ depth =>
      obtain ⟨⟨read, _⟩, hmembers, hread⟩ := exists_of_bind_ok hread
      obtain ⟨_, -, hread⟩ := exists_of_bind_ok hread
      obtain ⟨rfl, -⟩ := Prod.mk.inj (Except.ok.inj hread)
      have hstart : KeyedBy P ([] : Dictionary Text α) :=
        ⟨List.nodup_nil, fun _ hmem => absurd hmem List.not_mem_nil⟩
      exact readMembers_keyedBy (fun t x rest hx => h depth t x rest hx) hstart hmembers
  · cases hread

/-- Reading the field keeps the property of the fields. -/
def Field.Keeps (field : Field σ) (Inv : σ → Prop) : Prop :=
  ∀ state, Inv state → (field.read state).Yields Inv

/-- A field keeps a property if setting it to what its reader yields does. -/
theorem keeps_make {name : Text} {get : σ → Option α} {set : σ → α → σ} {reader : Reader α}
    {fillable : Bool} (h : reader.Yields P) (hset : ∀ state x, Inv state → P x → Inv (set state x)) :
    (Field.make name get set reader fillable).Keeps Inv := by
  intro state hstate depth t after rest hread
  obtain ⟨⟨x, behind⟩, hx, hread⟩ := exists_of_bind_ok hread
  obtain ⟨rfl, -⟩ := Prod.mk.inj (Except.ok.inj hread)
  exact hset state x hstate (h _ _ _ _ hx)

theorem exists_of_placed_ok {result : Except Fault α} {x : α} (h : Shape.placed result = .ok x) :
    result = .ok x := by
  cases result with
  | ok y => exact congrArg Except.ok (Except.ok.inj h)
  | error fault => cases h

variable {shape : Shape σ α}

/-- The fields of an object keep the property, by induction on its members. A member of no
field is passed over, and a field that is there twice is refused, so that only set fields
matter. -/
theorem readFields_keeps (h : ∀ field ∈ shape.fields, field.Keeps Inv) {depth fuel : Nat}
    {first : Bool} {state after : σ} {t rest : Text} (hstate : Inv state)
    (hread : shape.readFields depth fuel first state t = .ok (after, rest)) : Inv after := by
  induction fuel generalizing first state t with
  | zero =>
    obtain ⟨rfl, -⟩ := Prod.mk.inj (Except.ok.inj hread)
    exact hstate
  | succ fuel ih =>
    rw [Shape.readFields] at hread
    obtain ⟨next, -, hread⟩ := exists_of_bind_ok hread
    cases next with
    | none =>
      obtain ⟨rfl, -⟩ := Prod.mk.inj (Except.ok.inj hread)
      exact hstate
    | some t =>
      obtain ⟨⟨name, behind⟩, -, hread⟩ := exists_of_bind_ok hread
      simp only at hread
      split at hread
      · obtain ⟨_, -, hread⟩ := exists_of_bind_ok hread
        exact ih hstate hread
      -- a member of a field is read by the field, which keeps the property
      next field hfield =>
        split at hread
        · cases hread
        · obtain ⟨⟨between, behind'⟩, hplaced, hread⟩ := exists_of_bind_ok hread
          obtain ⟨_, -, hvalue⟩ := exists_of_bind_ok (exists_of_placed_ok hplaced)
          exact ih (h field (List.mem_of_find?_eq_some hfield) state hstate _ _ _ _ hvalue) hread

/-- The items of an array keep the property, by induction on the fields. -/
theorem readPositions_keeps {depth index : Nat} {fields : List (Field σ)}
    (h : ∀ field ∈ fields, field.Keeps Inv) {state after : σ} {t rest : Text} (hstate : Inv state)
    (hread : shape.readPositions depth index fields state t = .ok (after, rest)) : Inv after := by
  induction fields generalizing index state t with
  | nil =>
    obtain ⟨rfl, -⟩ := Prod.mk.inj (Except.ok.inj hread)
    exact hstate
  | cons field fields ih =>
    have hfields : ∀ field ∈ fields, field.Keeps Inv := fun other hother =>
      h other (List.mem_cons_of_mem _ hother)
    rw [Shape.readPositions] at hread
    obtain ⟨next, -, hread⟩ := exists_of_bind_ok hread
    cases next with
    | some t =>
      obtain ⟨⟨between, behind⟩, hplaced, hread⟩ := exists_of_bind_ok hread
      have hbetween : Inv between :=
        h field List.mem_cons_self state hstate _ _ _ _ (exists_of_placed_ok hplaced)
      exact ih hfields hbetween hread
    -- the list has ended; the fields that are left must do without
    | none =>
      simp only at hread
      split at hread
      · exact ih hfields hstate hread
      · cases hread

/-- Both forms of a record are opened in the same way, and give what stood inside. -/
theorem exists_of_opened_ok {read : Except RecordError (α × Text)}
    {close : Text → Except Fault Text} {afterAttempt : Text → Text} {x : α} {rest : Text}
    (h : ((match read with
      | .ok (x, rest) => do return (x, ← close rest)
      | .error (.placed fault) => .error fault
      | .error (.unplaced problem rest) => .error (.before problem (afterAttempt rest))) :
      Except Fault (α × Text)) = .ok (x, rest)) : ∃ behind, read = .ok (x, behind) := by
  split at h
  next y behind =>
    obtain ⟨_, -, h⟩ := exists_of_bind_ok h
    obtain ⟨rfl, -⟩ := Prod.mk.inj (Except.ok.inj h)
    exact ⟨behind, rfl⟩
  next => cases h
  next => cases h

/-- **Records.** What every field keeps holds of the fields that a record is made of. -/
theorem yields_shape (hstart : Inv shape.start) (hfields : ∀ field ∈ shape.fields, field.Keeps Inv)
    (hfinish : ∀ state x, Inv state → shape.finish state = .ok x → P x) :
    shape.reader.Yields P := by
  have hfinishAt : ∀ {state : σ} {behind : Text} {x : α} {rest : Text}, Inv state →
      shape.finishAt (state, behind) = .ok (x, rest) → P x := by
    intro state behind x rest hstate h
    unfold Shape.finishAt at h
    split at h
    next y hy =>
      obtain ⟨rfl, -⟩ := Prod.mk.inj (Except.ok.inj h)
      exact hfinish state y hstate hy
    next => cases h
  intro depth t x rest hread
  rw [Shape.reader] at hread
  cases ht : skipSpace t with
  | nil => rw [ht] at hread; cases hread
  | cons c behind =>
    rw [ht] at hread
    simp only at hread
    cases depth with
    | zero =>
      -- a record needs a level
      by_cases hobject : c = '{'
      · rw [if_pos hobject] at hread
        cases hread
      by_cases harray : c = '['
      · rw [if_neg hobject, if_pos harray] at hread
        cases hread
      · rw [if_neg hobject, if_neg harray] at hread
        cases hread
    | succ depth =>
      by_cases hobject : c = '{'
      · rw [if_pos hobject] at hread
        obtain ⟨_, hkind⟩ := exists_of_opened_ok hread
        obtain ⟨⟨state, behind⟩, hstate, hkind⟩ := exists_of_bind_ok hkind
        exact hfinishAt (readFields_keeps hfields hstart hstate) hkind
      by_cases harray : c = '['
      · rw [if_neg hobject, if_pos harray] at hread
        obtain ⟨_, hkind⟩ := exists_of_opened_ok hread
        obtain ⟨⟨state, behind⟩, hstate, hkind⟩ := exists_of_bind_ok hkind
        exact hfinishAt (readPositions_keeps hfields hstart hstate) hkind
      · rw [if_neg hobject, if_neg harray] at hread
        cases hread

end

end MarkupDesk.Json
