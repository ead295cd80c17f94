/-
`Dictionary.lean` -- values by key, in the order in which the keys came.

A dictionary is a list of pairs. Setting a key that is there changes its value and
leaves its place; a new key goes to the end. So a dictionary grown by `insert`
from nothing has every key once, in the order of first insertion.
-/
import MarkupDesk.Text.Basic

set_option autoImplicit false

namespace MarkupDesk

/-- Values by key, in order of first insertion. -/
abbrev Dictionary (κ α : Type) := List (κ × α)

namespace Dictionary

variable {κ α : Type} [DecidableEq κ]

/-- The value of the first pair with this key. -/
def get? : Dictionary κ α → κ → Option α
  | [], _ => none
  | pair :: pairs, key => if pair.1 = key then some pair.2 else get? pairs key

/-- The dictionary with `key` set to `value`. -/
def insert : Dictionary κ α → κ → α → Dictionary κ α
  | [], key, value => [(key, value)]
  | pair :: pairs, key, value =>
    if pair.1 = key then (key, value) :: pairs else pair :: insert pairs key value

/-- The dictionary without `key`. -/
def erase (pairs : Dictionary κ α) (key : κ) : Dictionary κ α :=
  pairs.filter fun pair => pair.1 ≠ key

/-- The keys, in order. -/
def keys (pairs : Dictionary κ α) : List κ := pairs.map (·.1)

/-- The dictionary that `insert` makes of the pairs, one after the other. -/
def ofPairs (pairs : List (κ × α)) : Dictionary κ α :=
  pairs.foldl (fun dictionary pair => insert dictionary pair.1 pair.2) []

/-! ## What a look-up finds -/

@[simp] theorem get?_nil (key : κ) : get? ([] : Dictionary κ α) key = none := rfl

theorem get?_cons (pair : κ × α) (pairs : Dictionary κ α) (key : κ) :
    get? (pair :: pairs) key = if pair.1 = key then some pair.2 else get? pairs key := rfl

/-- A key that is set has the value that it was set to, whether it was there before or not. -/
@[simp] theorem get?_insert_self (pairs : Dictionary κ α) (key : κ) (value : α) :
    get? (insert pairs key value) key = some value := by
  -- the key may stand further down, so the search goes where `insert` went
  induction pairs with
  | nil => simp [insert, get?]
  | cons pair pairs ih =>
    by_cases h : pair.1 = key
    · simp [insert, get?, h]
    · simp [insert, get?, h, ih]

/-- No other key notices that a key is set. With `get?_insert_self` this is all that a look-up
has to know of `insert`. -/
theorem get?_insert_of_ne {key other : κ} (h : other ≠ key) (value : α)
    (pairs : Dictionary κ α) : get? (insert pairs key value) other = get? pairs other := by
  induction pairs with
  | nil => simp [insert, get?, Ne.symm h]
  | cons pair pairs ih =>
    by_cases hp : pair.1 = key
    · simp [insert, get?, hp, Ne.symm h]
    · simp [insert, get?, hp, ih]

@[simp] theorem get?_erase_self (pairs : Dictionary κ α) (key : κ) :
    get? (erase pairs key) key = none := by
  induction pairs with
  | nil => rfl
  | cons pair pairs ih =>
    by_cases h : pair.1 = key
    · simpa [erase, h] using ih
    · simpa [erase, h, get?] using ih

/-- Erasing a key takes all of its pairs away and leaves the look-up of every other key as it
was. -/
theorem get?_erase_of_ne {key other : κ} (h : other ≠ key) (pairs : Dictionary κ α) :
    get? (erase pairs key) other = get? pairs other := by
  induction pairs with
  | nil => rfl
  | cons pair pairs ih =>
    by_cases hp : pair.1 = key
    · have hne : pair.1 ≠ other := fun he => h (he ▸ hp)
      simpa [erase, hp, get?, hne, Ne.symm h] using ih
    · by_cases ho : pair.1 = other
      · simp [erase, get?, ho, h]
      · simpa [erase, hp, get?, ho] using ih

/-! ## Which keys there are -/

omit [DecidableEq κ] in
@[simp] theorem keys_nil : keys ([] : Dictionary κ α) = [] := rfl

omit [DecidableEq κ] in
@[simp] theorem keys_cons (pair : κ × α) (pairs : Dictionary κ α) :
    keys (pair :: pairs) = pair.1 :: keys pairs := rfl

/-- Setting a key keeps the keys and their order, and adds the key at the end if it was
not there. -/
theorem keys_insert (pairs : Dictionary κ α) (key : κ) (value : α) :
    keys (insert pairs key value) = if key ∈ keys pairs then keys pairs else keys pairs ++ [key] := by
  induction pairs with
  | nil => rfl
  | cons pair pairs ih =>
    by_cases h : pair.1 = key
    · simp [insert, h]
    · simp only [insert, h, if_false, keys_cons, ih, List.mem_cons, Ne.symm h, false_or]
      by_cases hk : key ∈ keys pairs
      · rw [if_pos hk, if_pos hk]
      · rw [if_neg hk, if_neg hk, List.cons_append]

/-- The invariant of all dictionaries that are grown by `insert`: no key stands twice. It is
what the permutation and membership lemmas below ask for. -/
theorem nodup_keys_insert {pairs : Dictionary κ α} (h : (keys pairs).Nodup) (key : κ) (value : α) :
    (keys (insert pairs key value)).Nodup := by
  rw [keys_insert]
  by_cases hk : key ∈ keys pairs
  · rw [if_pos hk]; exact h
  -- the new key stands behind keys that it is different from
  · rw [if_neg hk]
    refine List.nodup_append.2 ⟨h, by simp, fun x hx y hy hxy => ?_⟩
    obtain rfl : y = key := by simpa using hy
    exact hk (hxy ▸ hx)

/-- A pair behind the setting of a key is the new one or was there before. -/
theorem eq_or_mem_of_mem_insert {pairs : Dictionary κ α} {key : κ} {value : α} {pair : κ × α}
    (h : pair ∈ insert pairs key value) : pair = (key, value) ∨ pair ∈ pairs := by
  induction pairs with
  | nil => exact .inl (List.mem_singleton.1 h)
  | cons first pairs ih =>
    rw [insert] at h
    split at h
    · exact (List.mem_cons.1 h).imp_right (List.mem_cons_of_mem _)
    · rcases List.mem_cons.1 h with rfl | h
      · exact .inr List.mem_cons_self
      · exact (ih h).imp_right (List.mem_cons_of_mem _)

/-- What a dictionary without some keys still tells. The index of a preset drops several keys
at once, so the fold is what is looked at. -/
theorem get?_foldl_erase (keys : List κ) (pairs : Dictionary κ α) (key : κ) :
    get? (keys.foldl erase pairs) key = if key ∈ keys then none else get? pairs key := by
  induction keys generalizing pairs with
  | nil => simp
  | cons first keys ih =>
    rw [List.foldl_cons, ih]
    by_cases hfirst : key = first
    · simp [hfirst]
    · simp [hfirst, get?_erase_of_ne hfirst]

/-- Erasing keys leaves the other pairs in their order. -/
theorem sublist_foldl_erase (keys : List κ) (pairs : Dictionary κ α) :
    (keys.foldl erase pairs).Sublist pairs := by
  induction keys generalizing pairs with
  | nil => exact List.Sublist.refl pairs
  | cons first keys ih => exact (ih (erase pairs first)).trans List.filter_sublist

/-- A new key goes to the end. -/
theorem insert_of_notMem {pairs : Dictionary κ α} {key : κ} (h : key ∉ keys pairs) (value : α) :
    insert pairs key value = pairs ++ [(key, value)] := by
  induction pairs with
  | nil => rfl
  | cons pair pairs ih =>
    obtain ⟨hne, hrest⟩ := not_or.1 (mt List.mem_cons.2 h)
    rw [insert, if_neg (Ne.symm hne), ih hrest, List.cons_append]

/-- A dictionary in which every key stands once is made by `insert` of its pairs, so that what
was written member by member is read back as it was. -/
theorem ofPairs_eq_self {pairs : Dictionary κ α} (h : (keys pairs).Nodup) : ofPairs pairs = pairs := by
  -- the fold is generalised to what was inserted before: the front grows by one pair a step
  have hfold : ∀ (back front : Dictionary κ α), (keys (front ++ back)).Nodup →
      back.foldl (fun dictionary pair => insert dictionary pair.1 pair.2) front = front ++ back := by
    intro back
    induction back with
    | nil => intro front _; rw [List.foldl_nil, List.append_nil]
    | cons pair back ih =>
      intro front hnodup
      have hnew : pair.1 ∉ keys front := fun hmem => by
        rw [keys, List.map_append, List.map_cons] at hnodup
        exact (List.nodup_append.1 hnodup).2.2 _ hmem _ List.mem_cons_self rfl
      rw [List.foldl_cons, insert_of_notMem hnew, ih (front ++ [pair]) (by simpa using hnodup),
        List.append_assoc, List.singleton_append]
  exact hfold pairs [] h

/-- Where every key stands once, the value of a key is that of any pair with it. -/
theorem get?_eq_some_of_mem {pairs : Dictionary κ α} (h : (keys pairs).Nodup) {pair : κ × α}
    (hmem : pair ∈ pairs) : get? pairs pair.1 = some pair.2 := by
  induction pairs with
  | nil => cases hmem
  | cons first pairs ih =>
    obtain ⟨hfirst, hrest⟩ := List.nodup_cons.1 h
    rw [get?_cons]
    rcases List.mem_cons.1 hmem with rfl | hmem
    · rw [if_pos rfl]
    · have hne : first.1 ≠ pair.1 := fun he => hfirst (List.mem_map.2 ⟨pair, hmem, he.symm⟩)
      rw [if_neg hne, ih hrest hmem]

/-- What a look-up finds is one of the pairs; that needs no distinct keys, unlike
`get?_eq_some_of_mem`. -/
theorem mem_of_get?_eq_some {pairs : Dictionary κ α} {key : κ} {value : α}
    (h : get? pairs key = some value) : (key, value) ∈ pairs := by
  induction pairs with
  | nil => cases h
  | cons pair pairs ih =>
    rw [get?_cons] at h
    by_cases hk : pair.1 = key
    · rw [if_pos hk] at h
      obtain rfl : pair.2 = value := Option.some.inj h
      rw [← hk]
      exact List.mem_cons_self
    · rw [if_neg hk] at h
      exact List.mem_cons_of_mem _ (ih h)

/-- Where every key stands once, what a look-up finds does not depend on the order. -/
theorem get?_perm {pairs pairs' : Dictionary κ α} (hperm : pairs'.Perm pairs)
    (hdistinct : (keys pairs).Nodup) (key : κ) : get? pairs' key = get? pairs key := by
  have hdistinct' : (keys pairs').Nodup := (hperm.map Prod.fst).nodup_iff.2 hdistinct
  refine Option.ext fun value => ⟨fun h => ?_, fun h => ?_⟩
  · exact get?_eq_some_of_mem hdistinct (hperm.mem_iff.1 (mem_of_get?_eq_some h))
  · exact get?_eq_some_of_mem hdistinct' (hperm.mem_iff.2 (mem_of_get?_eq_some h))

end Dictionary

end MarkupDesk
