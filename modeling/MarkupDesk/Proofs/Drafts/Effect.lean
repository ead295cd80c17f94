/-
`Proofs/Drafts/Effect.lean` -- what operations on drafts may change.

Operations on drafts are made of steps, and of these only three change something: a file of the
store is saved, a document is removed, or a token is taken. So a relation between sessions that
these three keep to, on one store, is one that every operation on the store keeps to, however it
ends (`Effects.does`, `Effects.call`). The relation need not know what is saved or why.
-/
import MarkupDesk.Proofs.Drafts.Frame
import MarkupDesk.Proofs.Drafts.Step

set_option autoImplicit false

namespace MarkupDesk.Drafts

open Files (Location)

/-- The relation is kept to by what operations on the store are made of. -/
structure Effects (store : Store) (cwd : Location) (R : Session → Session → Prop) : Prop where
  chains : Chains R
  save : ∀ (slot : Slot) (value : Json), (Store.save (slot.path store) value).Does cwd R
  remove : ∀ id, (Task.mapError (StoreError.write (store.draftPath id))
    (Files.removeIfPresent (store.draftPath id))).Does cwd R
  token : ∀ s : Session, R s { s with nextToken := s.nextToken + 1 }

namespace Effects

variable {store : Store} {cwd : Location} {R : Session → Session → Prop} {α : Type}

/-- Every kind of step keeps to the relation; most of them change nothing, and the relation is
reflexive. -/
theorem step (h : Effects store cwd R) {action : StateM Session α} (hstep : store.Step α action)
    (s : Session) (hcwd : s.cwd = cwd) : R s (action.run s).2 := by
  cases hstep with
  | clock => exact h.chains.refl s
  | token => exact h.token s
  | find slot => exact h.chains.refl s
  | load slot reader fallback => exact h.chains.refl s
  | save slot value => exact (h.save slot value).ends hcwd rfl
  | remove id => exact (h.remove id).ends hcwd rfl

/-- **Whatever is made of steps on the store** keeps to the relation. -/
theorem does (h : Effects store cwd R) {ε : Type} {task : Task ε α} (hdoes : store.Does task.run) :
    task.Does cwd R :=
  Composed.does h.chains h.step hdoes

/-- Opening a store is made of steps on the store that is opened. -/
theorem openFor {root : Path} {preset : Preset} (h : Effects (Store.ofPreset root preset) cwd R) :
    (Store.openFor root preset).Does cwd R :=
  h.does (does_openFor root preset)

/-- So is opening a draft, which may have to recover first. -/
theorem load (h : Effects store cwd R) (id : Text) : (store.load id).Does cwd R := h.does (does_load id)

/-- **Every call** on the store of a preset, the one that opens it included. A call that names
a store has to name this one; otherwise it would save its files elsewhere. -/
theorem call {root : Path} {preset : Preset} (h : Effects (Store.ofPreset root preset) cwd R)
    {call : Call} (hstore : ∀ store ∈ call.store?, store = Store.ofPreset root preset) :
    (call.run root preset).Does cwd R := by
  -- one case for each call; the handle is the store that the effects are about
  cases call with
  | openStore => exact Task.does_certain (Task.does_map h.openFor)
  | create store name =>
    obtain rfl := hstore store rfl
    exact Task.does_certain (Task.does_map (h.does (does_create name)))
  | saveAs store name content =>
    obtain rfl := hstore store rfl
    exact Task.does_certain (Task.does_map (h.does (does_saveAs name content)))
  | load store id =>
    obtain rfl := hstore store rfl
    exact Task.does_certain (Task.does_map (h.load id))
  | loadActive store =>
    obtain rfl := hstore store rfl
    exact Task.does_certain (Task.does_map (h.does does_loadActive))
  | autosave store id content =>
    obtain rfl := hstore store rfl
    exact Task.does_certain (Task.does_map (h.does (does_autosave id content)))
  | delete store id =>
    obtain rfl := hstore store rfl
    exact Task.does_map (h.does (does_delete id))

end Effects

end MarkupDesk.Drafts
