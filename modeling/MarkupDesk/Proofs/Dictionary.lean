/-
`Proofs/Dictionary.lean` -- dictionaries that grow.

A dictionary made by setting pairs one after the other is told by the pairs: its keys are those of
the pairs, each once and in the order in which they first came, and a look-up finds the value of the
last pair with the key. Each statement is an induction on the pairs from the right, so that the step
is one `insert`, which leaves all other keys where they are and what they are.
-/
import MarkupDesk.Dictionary
import Mathlib.Data.List.Basic
import Mathlib.Data.List.Induction
import Mathlib.Data.Finset.Card

set_option autoImplicit false

namespace MarkupDesk.Dictionary

variable {κ α : Type} [DecidableEq κ]

/-- A look-up fails exactly for what is no key. -/
theorem get?_eq_none_iff {pairs : Dictionary κ α} {key : κ} :
    get? pairs key = none ↔ key ∉ keys pairs := by
  induction pairs with
  | nil => simp
  | cons pair pairs ih =>
    rw [get?_cons, keys_cons, List.mem_cons, not_or]
    by_cases hkey : pair.1 = key
    · simp [hkey]
    · rw [if_neg hkey, ih]
      exact (and_iff_right (Ne.symm hkey)).symm

/-- Values may be changed one by one before or after they are looked up. -/
theorem get?_map {β : Type} (f : α → β) (pairs : Dictionary κ α) (key : κ) :
    get? (pairs.map fun pair => (pair.1, f pair.2)) key = (get? pairs key).map f := by
  induction pairs with
  | nil => rfl
  | cons pair pairs ih =>
    rw [List.map_cons, get?_cons, get?_cons, ih]
    split <;> rfl

/-- One more pair is one more `insert`. This is the step of all inductions from the right
below. -/
theorem ofPairs_concat (pairs : List (κ × α)) (pair : κ × α) :
    ofPairs (pairs ++ [pair]) = insert (ofPairs pairs) pair.1 pair.2 := by
  rw [ofPairs, List.foldl_append]
  rfl

/-- The keys are those of the pairs; how often one was set does not matter here. -/
theorem mem_keys_ofPairs {pairs : List (κ × α)} {key : κ} :
    key ∈ keys (ofPairs pairs) ↔ key ∈ pairs.map Prod.fst := by
  induction pairs using List.reverseRecOn with
  | nil => rfl
  | append_singleton pairs pair ih =>
    rw [ofPairs_concat, keys_insert, List.map_append, List.mem_append, ← ih, List.map_singleton,
      List.mem_singleton]
    by_cases hpair : pair.1 ∈ keys (ofPairs pairs)
    -- the last pair replaces another one, so it brings no new key
    · rw [if_pos hpair]
      refine ⟨.inl, ?_⟩
      rintro (hkey | rfl)
      · exact hkey
      · exact hpair
    · rw [if_neg hpair, List.mem_append, List.mem_singleton]

/-- **The keys stand in the order in which they first came**, so each of them stands there once. -/
theorem pairwise_keys_ofPairs [BEq κ] [LawfulBEq κ] (pairs : List (κ × α)) :
    (keys (ofPairs pairs)).Pairwise fun a b =>
      (pairs.map Prod.fst).idxOf a < (pairs.map Prod.fst).idxOf b := by
  induction pairs using List.reverseRecOn with
  | nil => exact List.Pairwise.nil
  | append_singleton pairs pair ih =>
    -- a key that came before keeps its place, whatever comes now
    have hold : ∀ a ∈ keys (ofPairs pairs),
        ((pairs ++ [pair]).map Prod.fst).idxOf a = (pairs.map Prod.fst).idxOf a := by
      intro a ha
      rw [List.map_append, List.idxOf_append_of_mem (mem_keys_ofPairs.1 ha)]
    have hkept : (keys (ofPairs pairs)).Pairwise fun a b =>
        ((pairs ++ [pair]).map Prod.fst).idxOf a < ((pairs ++ [pair]).map Prod.fst).idxOf b := by
      refine ih.imp_of_mem fun {a b} ha hb hlt => ?_
      rw [hold a ha, hold b hb]
      exact hlt
    rw [ofPairs_concat, keys_insert]
    by_cases hpair : pair.1 ∈ keys (ofPairs pairs)
    · rw [if_pos hpair]
      exact hkept
    · rw [if_neg hpair, List.pairwise_append]
      refine ⟨hkept, List.pairwise_singleton _ _, fun a ha b hb => ?_⟩
      rw [List.mem_singleton.1 hb, hold a ha, List.map_append,
        List.idxOf_append_of_notMem (mt mem_keys_ofPairs.2 hpair)]
      have hbefore := List.idxOf_lt_length_of_mem (mem_keys_ofPairs.1 ha)
      omega

/-- So no key stands twice: it would stand before itself. -/
theorem nodup_keys_ofPairs (pairs : List (κ × α)) : (keys (ofPairs pairs)).Nodup := by
  refine (pairwise_keys_ofPairs pairs).imp fun hlt heq => ?_
  rw [heq] at hlt
  exact Nat.lt_irrefl _ hlt

/-- **The last pair with a key counts.** A look-up takes the first pair that it meets, so the
pairs are looked up from the other end. -/
theorem get?_ofPairs (pairs : List (κ × α)) (key : κ) :
    get? (ofPairs pairs) key = get? pairs.reverse key := by
  induction pairs using List.reverseRecOn with
  | nil => rfl
  | append_singleton pairs pair ih =>
    rw [ofPairs_concat, List.reverse_append, List.reverse_singleton, List.singleton_append, get?_cons]
    by_cases hkey : pair.1 = key
    · rw [if_pos hkey, ← hkey, get?_insert_self]
    · rw [if_neg hkey, get?_insert_of_ne (Ne.symm hkey), ih]

/-- The pair that a look-up finds is the first one with its key. -/
theorem get?_eq_some_iff_append {pairs : Dictionary κ α} {key : κ} {value : α} :
    get? pairs key = some value ↔
      ∃ front back, pairs = front ++ (key, value) :: back ∧ key ∉ keys front := by
  induction pairs with
  | nil => simp
  | cons pair pairs ih =>
    rw [get?_cons]
    constructor
    · intro h
      split at h
      next hkey => exact ⟨[], pairs, by rw [← hkey, ← Option.some.inj h]; rfl, by simp⟩
      next hkey =>
        obtain ⟨front, back, rfl, hfront⟩ := ih.1 h
        refine ⟨pair :: front, back, rfl, ?_⟩
        rw [keys_cons, List.mem_cons, not_or]
        exact ⟨Ne.symm hkey, hfront⟩
    · rintro ⟨front, back, heq, hfront⟩
      -- the first pair with the key is this one, or stands further down
      cases front with
      | nil =>
        obtain ⟨rfl, -⟩ := List.cons.inj heq
        rw [if_pos rfl]
      | cons first front =>
        obtain ⟨rfl, rfl⟩ := List.cons.inj heq
        rw [keys_cons, List.mem_cons, not_or] at hfront
        rw [if_neg (Ne.symm hfront.1)]
        exact ih.2 ⟨front, back, rfl, hfront.2⟩

/-- The same, without a reversal: the pair that counts is the one behind which its key does
not come again. -/
theorem get?_ofPairs_eq_some_iff {pairs : List (κ × α)} {key : κ} {value : α} :
    get? (ofPairs pairs) key = some value ↔
      ∃ front back, pairs = front ++ (key, value) :: back ∧ key ∉ back.map Prod.fst := by
  rw [get?_ofPairs, get?_eq_some_iff_append]
  -- read from the other end, the last pair with the key is the first one
  constructor
  · rintro ⟨back, front, hpairs, hback⟩
    refine ⟨front.reverse, back.reverse, ?_, by simpa [keys] using hback⟩
    rw [← List.reverse_reverse pairs, hpairs, List.reverse_append, List.reverse_cons,
      List.append_assoc, List.singleton_append]
  · rintro ⟨front, back, rfl, hback⟩
    refine ⟨back.reverse, front.reverse, ?_, by simpa [keys] using hback⟩
    rw [List.reverse_append, List.reverse_cons, List.append_assoc, List.singleton_append]

/-- There are as many pairs as there are different keys. -/
theorem length_ofPairs (pairs : List (κ × α)) :
    (ofPairs pairs).length = (pairs.map Prod.fst).toFinset.card := by
  have hkeys : (keys (ofPairs pairs)).toFinset = (pairs.map Prod.fst).toFinset := by
    ext key
    rw [List.mem_toFinset, List.mem_toFinset, mem_keys_ofPairs]
  rw [← hkeys, List.toFinset_card_of_nodup (nodup_keys_ofPairs pairs), keys, List.length_map]

/-- **Setting a key leaves the others where they are.** -/
theorem getElem?_keys_insert_of_ne {key other : κ} (h : other ≠ key) (value : α)
    (pairs : Dictionary κ α) (i : Nat) :
    (keys (insert pairs key value))[i]? = some other ↔ (keys pairs)[i]? = some other := by
  rw [keys_insert]
  by_cases hkey : key ∈ keys pairs
  · rw [if_pos hkey]
  · rw [if_neg hkey]
    by_cases hi : i < (keys pairs).length
    · rw [List.getElem?_append_left hi]
    · -- behind the keys that were there stands the new one only
      rw [List.getElem?_append_right (Nat.le_of_not_lt hi),
        List.getElem?_eq_none (Nat.le_of_not_lt hi)]
      refine ⟨fun hnew => ?_, fun hnone => by cases hnone⟩
      have hmem := List.mem_of_getElem? hnew
      exact absurd (List.mem_singleton.1 hmem) h

end MarkupDesk.Dictionary
