import SecretProjection.Proofs.Output
import SecretProjection.Proofs.Registry
import SecretProjection.Proofs.Table

/-!
# Projections side by side

A reconciliation looks up and writes the secret of its own output key only.  Of the store it
therefore notices what the store does under that key, and two states in which the store does the
same there lead to the same outcome and to the same write.

In a store that keeps its secrets apart, a write has no effect on what is looked up or written
elsewhere.  Reconciliations of projections with different output keys can then be done in either
order: each of them has the same outcome, and the secrets behind both are the same up to the
versions, which tell the order.
-/

namespace SecretProjection

universe u v w x y

/-- An attempt without its value. -/
def Timed.forget {ε : Type u} {α : Type v} (attempt : Timed ε α) : Timed ε Unit :=
  attempt.map fun _ => ()

namespace Output

open Cluster

section Runs

variable {φ : Type w} {τ : Type x}

/-- Two states in which a store does the same under a key. -/
structure Store.Alike (store : Store φ τ) (key : String × String) (state other : τ) : Prop where
  get : store.get state key.1 key.2 = store.get other key.1 key.2
  write : forall secret, secret.key = key ->
    (store.write state secret).forget = (store.write other secret).forget

/-- The states behind two runs that have written the same secret, or nothing. -/
inductive Store.Moved (store : Store φ τ) (key : String × String) (state other : τ) :
    τ -> τ -> Prop where
  | kept : Moved store key state other state other
  | wrote {secret : Secret} {after otherAfter : τ} :
      secret.key = key ->
      (store.write state secret).result = .ok after ->
      (store.write other secret).result = .ok otherAfter ->
      Moved store key state other after otherAfter

variable {store : Store φ τ} {key : String × String} {state other : τ}

theorem Store.Alike.refl (store : Store φ τ) (key : String × String) (state : τ) :
    store.Alike key state state := ⟨rfl, fun _ _ => rfl⟩

/-!
# Runs on states that are alike
-/

section Settling

variable {desired : Secret} {existing : Option Secret}

theorem written_settle_of_alike (h : store.Alike key state other) (hkey : desired.key = key) :
    (settle store state desired existing).map (·.written) =
      (settle store other desired existing).map (·.written) := by
  unfold settle
  cases hplan : plan desired existing with
  | none => rfl
  | some secret =>
      -- What is reported of a write is that it was made.
      have hwrite := congrArg (Timed.map fun _ => true)
        (h.write secret ((key_of_plan hplan).trans hkey))
      simp only [Timed.forget, Timed.map_map] at hwrite ⊢
      exact hwrite

theorem moved_settle {done otherDone : Committed τ} (hkey : desired.key = key)
    (hdone : (settle store state desired existing).result = .ok done)
    (hother : (settle store other desired existing).result = .ok otherDone) :
    store.Moved key state other done.state otherDone.state := by
  unfold settle at hdone hother
  cases hplan : plan desired existing with
  | none =>
      rw [hplan] at hdone hother
      cases hdone
      cases hother
      exact .kept
  | some secret =>
      rw [hplan] at hdone hother
      rcases Timed.result_map_eq_ok.mp hdone with ⟨after, hafter, rfl⟩
      rcases Timed.result_map_eq_ok.mp hother with ⟨otherAfter, hotherAfter, rfl⟩
      exact .wrote ((key_of_plan hplan).trans hkey) hafter hotherAfter

end Settling

section Committing

variable {owner : Projection} {document : Document}

theorem written_commit_of_alike
    (h : store.Alike (owner.metadata.namespaceText, document.name) state other) :
    (commit store state owner document).map (·.written) =
      (commit store other owner document).map (·.written) := by
  cases hbuild : build owner document with
  | error fault => rw [commit_of_unbuilt hbuild, commit_of_unbuilt hbuild]
  | ok desired =>
      rw [commit_of_built hbuild, commit_of_built hbuild, Timed.map_bind, Timed.map_bind, h.get]
      congr 1
      funext existing
      exact written_settle_of_alike h (key_of_build hbuild)

theorem moved_commit {done otherDone : Committed τ}
    (h : store.Alike (owner.metadata.namespaceText, document.name) state other)
    (hdone : (commit store state owner document).result = .ok done)
    (hother : (commit store other owner document).result = .ok otherDone) :
    store.Moved (owner.metadata.namespaceText, document.name) state other done.state
      otherDone.state := by
  cases hbuild : build owner document with
  | error fault =>
      rw [commit_of_unbuilt hbuild] at hdone
      cases hdone
  | ok desired =>
      rw [commit_of_built hbuild] at hdone hother
      rcases Timed.result_bind_eq_ok.mp hdone with ⟨existing, hget, hsettle⟩
      rcases Timed.result_bind_eq_ok.mp hother with ⟨otherExisting, hotherGet, hotherSettle⟩
      have hsame : existing = otherExisting := by
        rw [h.get, hotherGet] at hget
        injection hget with heq
        exact heq.symm
      subst hsame
      exact moved_settle (key_of_build hbuild) hsettle hotherSettle

end Committing

end Runs

end Output

namespace Sync

open Projection Output

section Runs

variable {ε : Type u} {σ : Type v} {φ : Type w} {τ : Type x}
variable {source : SecretSource ε σ} {store : Output.Store φ τ} {state other : τ}
variable {settings : Settings} {unit : Projection} {trigger : Trigger} {now : Instant}

/-- An attempt without the store behind it. -/
def Attempt.forget (done : Attempt ε φ τ) : Attempt ε φ Unit := { done with store := () }

/-- An outcome without the store behind it. -/
def Outcome.forget (outcome : Outcome ε φ τ) : Outcome ε φ Unit := { outcome with store := () }

theorem forget_conclude (done : Attempt ε φ τ) :
    (conclude settings unit now done).forget = conclude settings unit now done.forget := by
  unfold conclude Attempt.forget
  cases done.result with
  | error fault => rfl
  | ok value => rfl

theorem store_conclude (done : Attempt ε φ τ) :
    (conclude settings unit now done).store = done.store := by
  unfold conclude
  cases done.result with
  | error fault => rfl
  | ok value => rfl

theorem written_commit_of_alike {elapsed : Duration} {document : Document}
    (h : store.Alike (unit.metadata.namespaceText, document.name) state other) :
    (commit store state settings elapsed unit document).map (·.written) =
      (commit store other settings elapsed unit document).map (·.written) := by
  unfold commit
  rw [Timed.map_within, Timed.map_within, Output.written_commit_of_alike h]

theorem attempt_of_alike (source : SecretSource ε σ) (settings : Settings)
    (h : store.Alike unit.outputKey state other) :
    (attempt source store state settings unit).forget =
        (attempt source store other settings unit).forget ∧
      store.Moved unit.outputKey state other (attempt source store state settings unit).store
        (attempt source store other settings unit).store := by
  cases hread : (gather source settings unit).result with
  | error fault =>
      rw [attempt_of_unread hread, attempt_of_unread hread]
      exact ⟨rfl, .kept⟩
  | ok aggregate =>
      cases hrender : Document.render unit.spec.output aggregate.merged with
      | error fault =>
          rw [attempt_of_unrendered hread hrender, attempt_of_unrendered hread hrender]
          exact ⟨rfl, .kept⟩
      | ok document =>
          have hname := Document.name_of_render hrender
          have halike : store.Alike (unit.metadata.namespaceText, document.name) state other := by
            rw [hname]
            exact h
          have hsame : (commit store state settings (gather source settings unit).elapsed unit
              document).map (·.written) = _ := written_commit_of_alike halike
          have hresult := congrArg Timed.result hsame
          have hevents := congrArg Timed.events hsame
          cases hcommit : (commit store state settings (gather source settings unit).elapsed
              unit document).result with
          | error fault =>
              have hother := eq_error_of_map_eq hresult hcommit
              rw [attempt_of_uncommitted hread hrender hcommit,
                attempt_of_uncommitted hread hrender hother]
              refine ⟨?_, .kept⟩
              exact congrArg (Attempt.mk _ _ · ()) hevents
          | ok done =>
              rcases exists_ok_of_map_eq hresult hcommit with ⟨otherDone, hother, hwritten⟩
              rw [attempt_of_committed hread hrender hcommit,
                attempt_of_committed hread hrender hother]
              constructor
              · simp only [Attempt.forget, hwritten]
                exact congrArg (Attempt.mk _ _ · ()) hevents
              · have hmoved := moved_commit halike (Timed.result_within_eq_ok.mp hcommit).2
                  (Timed.result_within_eq_ok.mp hother).2
                rw [hname] at hmoved
                exact hmoved

/-- Where a store does the same under the output key, a reconciliation has the same outcome and
makes the same write. -/
theorem reconcile_of_alike (h : store.Alike unit.outputKey state other) :
    (reconcile source store state settings unit trigger now).forget =
        (reconcile source store other settings unit trigger now).forget ∧
      store.Moved unit.outputKey state other
        (reconcile source store state settings unit trigger now).store
        (reconcile source store other settings unit trigger now).store := by
  unfold reconcile
  by_cases hdue : isDue unit trigger now = true
  · rw [if_pos hdue, if_pos hdue, forget_conclude, forget_conclude, store_conclude,
      store_conclude]
    rcases attempt_of_alike source settings h with ⟨hforget, hmoved⟩
    rw [hforget]
    exact ⟨rfl, hmoved⟩
  · rw [if_neg hdue, if_neg hdue]
    exact ⟨rfl, .kept⟩

end Runs

end Sync

/-!
# Stores that keep their secrets apart
-/

namespace Output

open Cluster

section Places

variable {φ : Type w} {τ : Type x} {κ : Type y}

/-- A store with a place for each key.  A write puts its secret in its place and leaves everything
else as it is: what is stored there, what is found there, and how it is written there. -/
structure Store.Separates (store : Store φ τ) (place : String × String -> κ)
    (stored : τ -> κ -> Option Secret) : Prop where
  puts : forall {state after : τ} {secret : Secret},
    (store.write state secret).result = .ok after ->
      exists version, stored after (place secret.key) = some (secret.withVersion version)
  keeps : forall {state after : τ} {secret : Secret},
    (store.write state secret).result = .ok after ->
      forall spot, spot ≠ place secret.key -> stored after spot = stored state spot
  get : forall {state after : τ} {secret : Secret},
    (store.write state secret).result = .ok after ->
      forall key, place key ≠ place secret.key ->
        store.get after key.1 key.2 = store.get state key.1 key.2
  write : forall {state after : τ} {secret : Secret},
    (store.write state secret).result = .ok after ->
      forall next, place next.key ≠ place secret.key ->
        (store.write after next).forget = (store.write state next).forget

/-- What is stored at a place, but for the version. -/
def unversioned (stored : τ -> κ -> Option Secret) (state : τ) (spot : κ) : Option Secret :=
  (stored state spot).map (·.withVersion none)

variable {store : Store φ τ} {place : String × String -> κ} {stored : τ -> κ -> Option Secret}
variable {state other after otherAfter : τ} {key : String × String}

/-- A run leaves every place but that of its key as it was. -/
theorem Store.Separates.stored_of_moved (h : store.Separates place stored)
    (hmoved : store.Moved key state other after otherAfter) {spot : κ} (hspot : spot ≠ place key) :
    stored after spot = stored state spot := by
  cases hmoved with
  | kept => rfl
  | wrote hkey hafter _ =>
      subst hkey
      exact h.keeps hafter spot hspot

theorem Store.Separates.alike_of_moved (h : store.Separates place stored)
    (hmoved : store.Moved key state other after otherAfter) {second : String × String}
    (hne : place second ≠ place key) : store.Alike second state after := by
  cases hmoved with
  | kept => exact .refl store second _
  | wrote hkey hafter _ =>
      subst hkey
      constructor
      · exact (h.get hafter second hne).symm
      · intro next hnext
        subst hnext
        exact (h.write hafter next hne).symm

/-- Runs that make the same write leave the same in its place, if the same was there before. -/
theorem Store.Separates.unversioned_of_moved (h : store.Separates place stored)
    (hmoved : store.Moved key state other after otherAfter) {spot : κ}
    (hsame : stored state spot = stored other spot) :
    unversioned stored after spot = unversioned stored otherAfter spot := by
  unfold unversioned
  cases hmoved with
  | kept => rw [hsame]
  | wrote hkey hafter hother =>
      rename_i secret
      by_cases hspot : spot = place secret.key
      · subst hspot
        rcases h.puts hafter with ⟨version, hstored⟩
        rcases h.puts hother with ⟨otherVersion, hotherStored⟩
        rw [hstored, hotherStored]
        rfl
      · rw [h.keeps hafter spot hspot, h.keeps hother spot hspot, hsame]

end Places

/-!
## Two such stores
-/

namespace Memory

theorem get?_put_of_ne (memory : Memory) {secret : Secret} {spot : String}
    (h : spot ≠ keyOfSecret secret) :
    (memory.put secret).secrets.get? spot = memory.secrets.get? spot := by
  unfold put
  exact Table.get?_insert_of_ne _ h _

/-- The place of a key: keys that are joined to the same text share it. -/
def placeOf (key : String × String) : String := keyOf key.1 key.2

theorem separates : Memory.toStore.Separates placeOf fun memory spot =>
    memory.secrets.get? spot where
  puts := by
    intro memory after secret hwrite
    rw [resultOf_eq_ok hwrite]
    exact ⟨some (toString (memory.writes + 1)), get?_put memory secret⟩
  keeps := by
    intro memory after secret hwrite spot hspot
    rw [resultOf_eq_ok hwrite]
    exact get?_put_of_ne memory hspot
  get := by
    intro memory after secret hwrite key hkey
    rw [resultOf_eq_ok hwrite]
    exact congrArg (fun found => Timed.event _ _ (resultOf memory.onGet found))
      (get?_put_of_ne memory hkey)
  write := by
    intro memory after secret hwrite next _
    rw [resultOf_eq_ok hwrite]
    -- A write pays no regard to what is stored.
    show Timed.map _ (Timed.event _ _ (resultOf memory.onWrite _)) =
      Timed.map _ (Timed.event _ _ (resultOf memory.onWrite _))
    unfold resultOf
    cases memory.onWrite.fault with
    | some fault => rfl
    | none => rfl

end Memory

end Output

namespace Cluster.Registry

open Output

variable {numbering : Numbering} {registry other : Registry numbering} {secret : Secret}

theorem eq_put_of_write {after : Registry numbering}
    (h : ((access numbering).toStore.write registry secret).result = .ok after) :
    after = registry.put secret := by
  by_cases hadmits : registry.Admits secret
  · have hput := put_of_admits hadmits
    rw [Access.result_write_of_ok (congrArg Call.result hput), hput] at h
    cases h
    rfl
  · rw [Access.result_write_of_error (congrArg Call.result (put_of_not_admits hadmits))] at h
    cases h

/-- Whether a write is accepted is decided by what is stored under its key. -/
theorem forget_write_of_secret_eq (h : registry.secret secret.key = other.secret secret.key) :
    ((access numbering).toStore.write registry secret).forget =
      ((access numbering).toStore.write other secret).forget := by
  have hadmits : registry.Admits secret <-> other.Admits secret := by
    unfold Admits
    rw [h]
  by_cases hother : other.Admits secret
  · simp only [Access.toStore, put_of_admits (hadmits.mpr hother), put_of_admits hother]
    rfl
  · have hrefusal : registry.refusal secret = other.refusal secret := by
      unfold refusal
      rw [h]
    simp only [Access.toStore, put_of_not_admits (mt hadmits.mp hother),
      put_of_not_admits hother, hrefusal]
    rfl

/-- A registry has a place for each key. -/
theorem separates : (access numbering).toStore.Separates id Registry.secret where
  puts := by
    intro registry after secret hwrite
    rw [eq_put_of_write hwrite]
    exact ⟨_, secret_put_self⟩
  keeps := by
    intro registry after secret hwrite key hkey
    rw [eq_put_of_write hwrite]
    exact secret_put_of_ne hkey
  get := by
    intro registry after secret hwrite key hkey
    rw [eq_put_of_write hwrite]
    exact congrArg (fun found => accessed ⟨none, .zero, registry, .ok found⟩ "get" key.1 key.2)
      (secret_put_of_ne hkey)
  write := by
    intro registry after secret hwrite next hnext
    rw [eq_put_of_write hwrite]
    exact forget_write_of_secret_eq (secret_put_of_ne hnext)

end Cluster.Registry

/-!
# Reconciliations in either order
-/

namespace Sync

open Output

/-- A reconciliation to be done: of which projection, upon which trigger, and when. -/
structure Turn where
  unit : Projection
  trigger : Trigger
  now : Instant

def Turn.run {ε : Type u} {σ : Type v} {φ : Type w} {τ : Type x} (source : SecretSource ε σ)
    (store : Output.Store φ τ) (settings : Settings) (turn : Turn) (state : τ) :
    Outcome ε φ τ :=
  reconcile source store state settings turn.unit turn.trigger turn.now

section Orders

variable {ε : Type u} {σ : Type v} {φ : Type w} {τ : Type x} {κ : Type y}
variable {source : SecretSource ε σ} {store : Output.Store φ τ} {settings : Settings}
variable {place : String × String -> κ} {stored : τ -> κ -> Option Cluster.Secret}
variable {turn first second : Turn} {state : τ} {spot : κ}

theorem moved_run (source : SecretSource ε σ) (store : Output.Store φ τ) (settings : Settings)
    (turn : Turn) (state : τ) :
    store.Moved turn.unit.outputKey state state (turn.run source store settings state).store
      (turn.run source store settings state).store :=
  (reconcile_of_alike (.refl store turn.unit.outputKey state)).2

/-- A reconciliation leaves every place but that of its output key as it was. -/
theorem stored_run_of_ne (hstore : store.Separates place stored)
    (hspot : spot ≠ place turn.unit.outputKey) :
    stored (turn.run source store settings state).store spot = stored state spot :=
  hstore.stored_of_moved (moved_run source store settings turn state) hspot

/-- A reconciliation goes the same way before and behind one of another place. -/
theorem run_behind (source : SecretSource ε σ) (settings : Settings)
    (hstore : store.Separates place stored) (state : τ)
    (hplaces : place second.unit.outputKey ≠ place first.unit.outputKey) :
    (second.run source store settings state).forget =
        (second.run source store settings (first.run source store settings state).store).forget ∧
      store.Moved second.unit.outputKey state (first.run source store settings state).store
        (second.run source store settings state).store
        (second.run source store settings (first.run source store settings state).store).store :=
  reconcile_of_alike (hstore.alike_of_moved (moved_run source store settings first state) hplaces)

/-- The order of two reconciliations shows nowhere but at the place of the first one. -/
theorem unversioned_run_of_ne (source : SecretSource ε σ) (settings : Settings)
    (hstore : store.Separates place stored) (state : τ)
    (hplaces : place second.unit.outputKey ≠ place first.unit.outputKey)
    (hspot : spot ≠ place first.unit.outputKey) :
    unversioned stored
        (second.run source store settings (first.run source store settings state).store).store
        spot =
      unversioned stored
        (first.run source store settings (second.run source store settings state).store).store
        spot := by
  have hsame : stored state spot = stored (first.run source store settings state).store spot :=
    (stored_run_of_ne hstore hspot).symm
  have hmoved := (run_behind source settings hstore state hplaces).2
  calc unversioned stored
        (second.run source store settings (first.run source store settings state).store).store spot
      = unversioned stored (second.run source store settings state).store spot :=
        (hstore.unversioned_of_moved hmoved hsame).symm
    _ = unversioned stored
          (first.run source store settings (second.run source store settings state).store).store
          spot := by
        unfold unversioned
        rw [stored_run_of_ne hstore hspot]

/-- The order shows at no place at all: each place is not that of one of the two. -/
theorem unversioned_run_comm (source : SecretSource ε σ) (settings : Settings)
    (hstore : store.Separates place stored) (state : τ)
    (hplaces : place first.unit.outputKey ≠ place second.unit.outputKey) (spot : κ) :
    unversioned stored
        (second.run source store settings (first.run source store settings state).store).store
        spot =
      unversioned stored
        (first.run source store settings (second.run source store settings state).store).store
        spot := by
  by_cases hspot : spot = place first.unit.outputKey
  · have hother : spot ≠ place second.unit.outputKey := by
      rw [hspot]
      exact hplaces
    exact (unversioned_run_of_ne source settings hstore state hplaces hother).symm
  · exact unversioned_run_of_ne source settings hstore state hplaces.symm hspot

/-- The tables of a memory that two reconciliations leave in either order are the same but for the
versions. -/
theorem secrets_run_comm (source : SecretSource ε σ) (settings : Settings) (memory : Memory)
    (hplaces : Memory.placeOf first.unit.outputKey ≠ Memory.placeOf second.unit.outputKey) :
    ((second.run source Memory.toStore settings
        (first.run source Memory.toStore settings memory).store).store.secrets.map
      fun _ secret => secret.withVersion none) =
    ((first.run source Memory.toStore settings
        (second.run source Memory.toStore settings memory).store).store.secrets.map
      fun _ secret => secret.withVersion none) := by
  apply Table.eq_of_get?_eq
  intro spot
  rw [Table.get?_map, Table.get?_map]
  exact unversioned_run_comm source settings Memory.separates memory hplaces spot

end Orders

/-- Projections with different output keys do not get in the way of each other.  Done in either
order, their reconciliations have the same outcomes and leave the same secrets but for the
versions, and each of them leaves the secrets under all other keys as they are. -/
theorem turns_commute {ε : Type u} {σ : Type v} {φ : Type w} {τ : Type x}
    {source : SecretSource ε σ} {store : Output.Store φ τ} {settings : Settings}
    {stored : τ -> String × String -> Option Cluster.Secret} {first second : Turn}
    (hstore : store.Separates id stored)
    (hkeys : first.unit.outputKey ≠ second.unit.outputKey) (state : τ) :
    (first.run source store settings state).forget =
        (first.run source store settings
          (second.run source store settings state).store).forget ∧
      (second.run source store settings (first.run source store settings state).store).forget =
        (second.run source store settings state).forget ∧
      (forall key,
        unversioned stored
            (second.run source store settings (first.run source store settings state).store).store
            key =
          unversioned stored
            (first.run source store settings (second.run source store settings state).store).store
            key) ∧
      (forall before key, key ≠ first.unit.outputKey ->
        stored (first.run source store settings before).store key = stored before key) ∧
      (forall before key, key ≠ second.unit.outputKey ->
        stored (second.run source store settings before).store key = stored before key) := by
  refine ⟨(run_behind source settings hstore state hkeys).1,
    (run_behind source settings hstore state hkeys.symm).1.symm,
    unversioned_run_comm source settings hstore state hkeys, ?_, ?_⟩
  · intro before key hkey
    exact stored_run_of_ne hstore hkey
  · intro before key hkey
    exact stored_run_of_ne hstore hkey

namespace Sample

/-- A first reconciliation that writes a secret of some name. -/
def turn (name : String) : Turn where
  unit := { projection "p" none with
    spec := { (projection "p" none).spec with
      output := ⟨name, "Opaque", .ofList [("password", "p")], .empty, .empty⟩ } }
  trigger := .scheduled
  now := .epoch

def registered (turn : Turn) (registry : Cluster.Registry .decimal) :
    Outcome String Cluster.Request (Cluster.Registry .decimal) :=
  turn.run (script "hunter2").toSource (Cluster.Registry.access .decimal).toStore settings registry

end Sample

theorem neighbours_commute :
    (Sample.registered (Sample.turn "app-creds") (.empty .decimal)).state = .synced true ∧
      (Sample.registered (Sample.turn "app-creds")
        (Sample.registered (Sample.turn "app-keys") (.empty .decimal)).store).state =
          .synced true ∧
      (forall key,
        unversioned Cluster.Registry.secret
            (Sample.registered (Sample.turn "app-keys")
              (Sample.registered (Sample.turn "app-creds") (.empty .decimal)).store).store key =
          unversioned Cluster.Registry.secret
            (Sample.registered (Sample.turn "app-creds")
              (Sample.registered (Sample.turn "app-keys") (.empty .decimal)).store).store key) := by
  have hkeys : (Sample.turn "app-creds").unit.outputKey ≠
      (Sample.turn "app-keys").unit.outputKey := by
    decide
  have hstate : (Sample.registered (Sample.turn "app-creds") (.empty .decimal)).state =
      .synced true := by
    decide +kernel
  rcases turns_commute Cluster.Registry.separates hkeys (.empty .decimal) with
    ⟨houtcome, _, hsecrets, _⟩
  refine ⟨hstate, ?_, hsecrets⟩
  rw [← hstate]
  exact (congrArg Outcome.state houtcome).symm

end Sync

end SecretProjection
