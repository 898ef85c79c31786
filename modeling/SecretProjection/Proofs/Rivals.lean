import SecretProjection.Proofs.Output
import SecretProjection.Proofs.Registry

/-!
# Commits among other writers

A commit looks a secret up and then writes over what it has seen.  Other clients may create, edit
and delete secrets before, between and after these two calls.

The version that a replacement names is the one of the secret that was seen.  Whatever another
client makes of that secret has a version that was issued later, so that the replacement is
refused even if the content is what it was before.  A creation is refused if anything is stored
when it arrives.  A write that is accepted has therefore met what the look-up has seen.  What goes
unnoticed is a secret that has come and gone where the look-up has seen none: an absence has no
version.
-/

namespace SecretProjection

namespace Cluster

/-!
# Other clients
-/

inductive Action where
  | create (secret : Secret)
  | edit (secret : Secret)
  | delete (key : String × String)

namespace Registry

variable {numbering : Numbering} {registry : Registry numbering} {key : String × String}
variable {action : Action} {count : Nat}

/-- A creation has no effect where a secret is stored, an edit has none where no secret is. -/
def apply (registry : Registry numbering) : Action -> Registry numbering
  | .create secret =>
      match registry.secret secret.key with
      | none => registry.put secret
      | some _ => registry
  | .edit secret =>
      match registry.secret secret.key with
      | none => registry
      | some _ => registry.put secret
  | .delete key => registry.erase key

def run (registry : Registry numbering) (actions : List Action) : Registry numbering :=
  actions.foldl apply registry

/-- An action that has an effect on the secret under a key. -/
inductive Touches (registry : Registry numbering) (key : String × String) : Action -> Prop where
  | created {secret : Secret} :
      secret.key = key -> registry.secret key = none -> Touches registry key (.create secret)
  | edited {secret found : Secret} :
      secret.key = key -> registry.secret key = some found ->
      Touches registry key (.edit secret)
  | deleted {found : Secret} :
      registry.secret key = some found -> Touches registry key (.delete key)

/-- Actions of which one has an effect on the secret under a key when it is done. -/
inductive Disturbed (key : String × String) : Registry numbering -> List Action -> Prop where
  | now {registry : Registry numbering} {action : Action} {rest : List Action} :
      registry.Touches key action -> Disturbed key registry (action :: rest)
  | later {registry : Registry numbering} {action : Action} {rest : List Action} :
      Disturbed key (registry.apply action) rest -> Disturbed key registry (action :: rest)

/-- Whether what is stored under a key has none of the first versions. -/
def Newer (registry : Registry numbering) (count : Nat) (key : String × String) : Prop :=
  forall found, registry.secret key = some found ->
    exists n, count ≤ n ∧ found.metadata.resourceVersion = some (numbering.version n)

/-!
## One action
-/

theorem apply_cases (registry : Registry numbering) (action : Action) :
    registry.apply action = registry ∨
      (exists secret, registry.Touches secret.key action ∧
        registry.apply action = registry.put secret) ∨
      (exists key, action = .delete key ∧ registry.apply action = registry.erase key) := by
  cases action with
  | create secret =>
      cases hfound : registry.secret secret.key with
      | none =>
          refine Or.inr (Or.inl ⟨secret, .created rfl hfound, ?_⟩)
          simp only [apply, hfound]
      | some found =>
          left
          simp only [apply, hfound]
  | edit secret =>
      cases hfound : registry.secret secret.key with
      | none =>
          left
          simp only [apply, hfound]
      | some found =>
          refine Or.inr (Or.inl ⟨secret, .edited rfl hfound, ?_⟩)
          simp only [apply, hfound]
  | delete key => exact Or.inr (Or.inr ⟨key, rfl, rfl⟩)

theorem secret_apply_of_not_touches (h : ¬ registry.Touches key action) :
    (registry.apply action).secret key = registry.secret key := by
  rcases apply_cases registry action with hsame | ⟨secret, htouches, hput⟩ | ⟨other, rfl, herase⟩
  · rw [hsame]
  · have hne : key ≠ secret.key := by
      intro heq
      rw [heq] at h
      exact h htouches
    rw [hput, secret_put_of_ne hne]
  · by_cases hkey : key = other
    · subst hkey
      rw [herase, secret_erase_self]
      cases hfound : registry.secret key with
      | none => rfl
      | some found => exact absurd (.deleted hfound) h
    · rw [herase, secret_erase_of_ne hkey]

theorem issued_le_apply : registry.issued ≤ (registry.apply action).issued := by
  rcases apply_cases registry action with hsame | ⟨secret, _, hput⟩ | ⟨other, _, herase⟩
  · exact Nat.le_of_eq (congrArg issued hsame.symm)
  · rw [hput]
    exact Nat.le_succ _
  · rw [herase]
    exact Nat.le_refl _

theorem newer_put {secret : Secret} : (registry.put secret).Newer registry.issued secret.key := by
  intro found hfound
  rw [secret_put_self] at hfound
  cases hfound
  exact ⟨registry.issued, Nat.le_refl _, rfl⟩

theorem newer_erase : (registry.erase key).Newer count key := by
  intro found hfound
  rw [secret_erase_self] at hfound
  cases hfound

/-- Whatever has an effect leaves nothing with a version that was issued before. -/
theorem newer_of_touches (h : registry.Touches key action) :
    (registry.apply action).Newer registry.issued key := by
  cases h with
  | created hkey hfound =>
      subst hkey
      simp only [apply, hfound]
      exact newer_put
  | edited hkey hfound =>
      subst hkey
      simp only [apply, hfound]
      exact newer_put
  | deleted hfound => exact newer_erase

theorem Newer.mono {least : Nat} (h : registry.Newer count key) (hleast : least ≤ count) :
    registry.Newer least key := by
  intro found hfound
  rcases h found hfound with ⟨n, hn, hversion⟩
  exact ⟨n, Nat.le_trans hleast hn, hversion⟩

theorem Newer.apply (h : registry.Newer count key) (hcount : count ≤ registry.issued) :
    (registry.apply action).Newer count key := by
  by_cases htouches : registry.Touches key action
  · exact (newer_of_touches htouches).mono hcount
  · intro found hfound
    rw [secret_apply_of_not_touches htouches] at hfound
    exact h found hfound

/-!
## Runs of actions
-/

theorem secret_run_of_not_disturbed {actions : List Action}
    (h : ¬ Disturbed key registry actions) :
    (registry.run actions).secret key = registry.secret key := by
  induction actions generalizing registry with
  | nil => rfl
  | cons action rest ih =>
      have hfirst : ¬ registry.Touches key action := fun htouches => h (.now htouches)
      have hrest : ¬ Disturbed key (registry.apply action) rest := fun hlater => h (.later hlater)
      exact (ih hrest).trans (secret_apply_of_not_touches hfirst)

theorem Newer.run {actions : List Action} (h : registry.Newer count key)
    (hcount : count ≤ registry.issued) : (registry.run actions).Newer count key := by
  induction actions generalizing registry with
  | nil => exact h
  | cons action rest ih => exact ih (h.apply hcount) (Nat.le_trans hcount issued_le_apply)

theorem newer_run_of_disturbed {actions : List Action} (h : Disturbed key registry actions) :
    (registry.run actions).Newer registry.issued key := by
  induction h with
  | now htouches => exact (newer_of_touches htouches).run issued_le_apply
  | later _ ih => exact ih.mono issued_le_apply

/-- A secret that was disturbed has another version, or is gone. -/
theorem version_ne_of_disturbed {actions : List Action} {found later : Secret}
    (h : Disturbed key registry actions) (hfound : registry.secret key = some found)
    (hlater : (registry.run actions).secret key = some later) :
    later.metadata.resourceVersion ≠ found.metadata.resourceVersion := by
  rcases newer_run_of_disturbed h later hlater with ⟨n, hn, hnew⟩
  rcases registry.versioned key found hfound with ⟨m, hm, hold⟩
  intro hsame
  rw [hnew, hold] at hsame
  injection hsame with hversion
  have heq : n = m := numbering.injective hversion
  omega

/-- Behind the actions a secret is what it was before exactly when none of them has had an effect
on it, or there was none and there is none. -/
theorem secret_run_eq_iff {actions : List Action} :
    (registry.run actions).secret key = registry.secret key <->
      ¬ Disturbed key registry actions ∨
        (registry.secret key = none ∧ (registry.run actions).secret key = none) := by
  constructor
  · intro hsame
    cases hfound : registry.secret key with
    | none =>
        rw [hfound] at hsame
        exact Or.inr ⟨rfl, hsame⟩
    | some found =>
        rw [hfound] at hsame
        left
        intro hdisturbed
        exact version_ne_of_disturbed hdisturbed hfound hsame rfl
  · intro h
    rcases h with hundisturbed | ⟨hbefore, hbehind⟩
    · exact secret_run_of_not_disturbed hundisturbed
    · rw [hbefore, hbehind]

/-- A write that names the version of an earlier secret is accepted exactly when that secret, or
its absence, is what it meets. -/
theorem admits_run_iff {actions : List Action} {secret : Secret}
    (hversion : secret.metadata.resourceVersion =
      (registry.secret secret.key).bind (·.metadata.resourceVersion)) :
    (registry.run actions).Admits secret <->
      (registry.run actions).secret secret.key = registry.secret secret.key := by
  unfold Admits
  rw [hversion]
  cases hfound : registry.secret secret.key with
  | none => rfl
  | some found =>
      rcases registry.versioned secret.key found hfound with ⟨n, _, hissued⟩
      simp only [Option.bind_some, hissued]
      constructor
      · intro hadmits
        rcases hadmits with ⟨other, hother, hsame⟩
        have hundisturbed : ¬ Disturbed secret.key registry actions := by
          intro hdisturbed
          exact version_ne_of_disturbed hdisturbed hfound hother (hsame.trans hissued.symm)
        rw [secret_run_of_not_disturbed hundisturbed, hfound]
      · intro hsame
        exact ⟨found, hsame, hissued⟩

end Registry

end Cluster

namespace Output

open Cluster

/-!
# Commits that are overtaken
-/

/-- The calls of a client that others come before, between its look-ups and its writes. -/
def Access.overtaken {σ : Type} (access : Access σ) (between : σ -> σ) : Access σ where
  lookUp := access.lookUp
  create state := access.create (between state)
  replace state := access.replace (between state)

section Proposals

variable {owner : Projection} {document : Document} {found : Option Secret} {secret : Secret}

/-- The key of the secret that a document is committed to. -/
def place (owner : Projection) (document : Document) : String × String :=
  (owner.metadata.namespaceText, document.name)

/-- The secret that a commit writes upon what it has found, if any. -/
def proposal (owner : Projection) (document : Document) (found : Option Secret) :
    Option Secret :=
  match build owner document with
  | .error _ => none
  | .ok desired => plan desired found

theorem proposal_of_unbuilt {fault : Fault} (h : build owner document = .error fault) :
    proposal owner document found = none := by
  simp only [proposal, h]

theorem proposal_of_built {desired : Secret} (h : build owner document = .ok desired) :
    proposal owner document found = plan desired found := by
  simp only [proposal, h]

theorem version_of_build {desired : Secret} (h : build owner document = .ok desired) :
    desired.metadata.resourceVersion = none := by
  unfold build at h
  cases hreference : ownerReference? owner with
  | none =>
      rw [hreference] at h
      cases h
  | some reference =>
      rw [hreference] at h
      cases h
      rfl

theorem version_of_plan {desired : Secret} (hdesired : desired.metadata.resourceVersion = none)
    (h : plan desired found = some secret) :
    secret.metadata.resourceVersion = found.bind (·.metadata.resourceVersion) := by
  cases found with
  | none =>
      cases h
      exact hdesired
  | some existing =>
      simp only [plan] at h
      by_cases huptodate : isUpToDate existing desired = true
      · rw [if_pos huptodate] at h
        cases h
      · rw [if_neg huptodate] at h
        cases h
        rfl

/-- What is written names the version that was found. -/
theorem version_of_proposal (h : proposal owner document found = some secret) :
    secret.metadata.resourceVersion = found.bind (·.metadata.resourceVersion) := by
  cases hbuild : build owner document with
  | error fault =>
      rw [proposal_of_unbuilt hbuild] at h
      cases h
  | ok desired =>
      rw [proposal_of_built hbuild] at h
      exact version_of_plan (version_of_build hbuild) h

theorem key_of_proposal (h : proposal owner document found = some secret) :
    secret.key = place owner document := by
  cases hbuild : build owner document with
  | error fault =>
      rw [proposal_of_unbuilt hbuild] at h
      cases h
  | ok desired =>
      rw [proposal_of_built hbuild] at h
      exact (key_of_plan h).trans (key_of_build hbuild)

variable {ε : Type} {σ : Type} {store : Store ε σ} {state : σ}

theorem result_commit_of_proposal
    (hget : (store.get state owner.metadata.namespaceText document.name).result = .ok found)
    (h : proposal owner document found = some secret) :
    (commit store state owner document).result =
      (store.write state secret).result.map fun state => ⟨state, true⟩ := by
  cases hbuild : build owner document with
  | error fault =>
      rw [proposal_of_unbuilt hbuild] at h
      cases h
  | ok desired =>
      rw [proposal_of_built hbuild] at h
      rw [commit_of_built hbuild, Timed.result_bind_of_ok hget]
      unfold settle
      rw [h]
      rfl

/-- Where there is nothing to be written, nothing is. -/
theorem written_of_no_proposal {done : Committed σ}
    (hget : (store.get state owner.metadata.namespaceText document.name).result = .ok found)
    (h : proposal owner document found = none)
    (hdone : (commit store state owner document).result = .ok done) : done.written = false := by
  cases hbuild : build owner document with
  | error fault =>
      rw [commit_of_unbuilt hbuild] at hdone
      cases hdone
  | ok desired =>
      rw [proposal_of_built hbuild] at h
      rw [commit_of_built hbuild, Timed.result_bind_of_ok hget] at hdone
      unfold settle at hdone
      rw [h] at hdone
      cases hdone
      rfl

end Proposals

/-- What other writers do around the two calls of a commit. -/
structure Rivals where
  before : List Action
  between : List Action
  after : List Action

namespace Rivals

section Courses

variable {numbering : Numbering} (rivals : Rivals) (start : Registry numbering)
variable (owner : Projection) (document : Document)

/-- The registry in which the commit looks its secret up. -/
def seen : Registry numbering := start.run rivals.before

/-- The registry that the write of the commit meets. -/
def met : Registry numbering := (rivals.seen start).run rivals.between

/-- The calls of the commit. -/
def calls (rivals : Rivals) (numbering : Numbering) : Access (Registry numbering) :=
  (Registry.access numbering).overtaken fun registry => registry.run rivals.between

/-- The commit as it goes among the others. -/
def course : Timed Request (Committed (Registry numbering)) :=
  commit (rivals.calls numbering).toStore (rivals.seen start) owner document

/-- Whether anything was written, or the fault of the commit. -/
def result : Except Fault Bool :=
  (rivals.course start owner document).result.map fun done => done.written

/-- The secret that the commit writes, if any. -/
def written : Option Secret :=
  proposal owner document ((rivals.seen start).secret (place owner document))

/-- The registry when the commit and all the others are through. -/
def final : Registry numbering :=
  match rivals.written start owner document with
  | none => (rivals.met start).run rivals.after
  | some secret =>
      ((Registry.access numbering).put (rivals.met start) secret).state.run rivals.after

end Courses

section Ends

variable {numbering : Numbering} {rivals : Rivals} {start : Registry numbering}
variable {owner : Projection} {document : Document} {secret : Secret}

theorem admits_met_iff (h : rivals.written start owner document = some secret) :
    (rivals.met start).Admits secret <->
      (rivals.met start).secret (place owner document) =
        (rivals.seen start).secret (place owner document) := by
  have hversion := version_of_proposal h
  rw [← key_of_proposal h] at hversion ⊢
  exact Registry.admits_run_iff hversion

theorem put_calls (rivals : Rivals) (start : Registry numbering) (secret : Secret) :
    (rivals.calls numbering).put (rivals.seen start) secret =
      (Registry.access numbering).put (rivals.met start) secret := rfl

theorem course_of_admits (h : rivals.written start owner document = some secret)
    (hadmits : (rivals.met start).Admits secret) :
    (rivals.course start owner document).result =
      .ok ⟨(rivals.met start).put secret, true⟩ := by
  have hput : (rivals.calls numbering).put (rivals.seen start) secret =
      (rivals.met start).stored secret :=
    (put_calls rivals start secret).trans (Registry.put_of_admits hadmits)
  unfold course
  rw [result_commit_of_proposal rfl h, Access.result_write_of_ok (congrArg Call.result hput), hput]
  rfl

theorem result_of_admits (h : rivals.written start owner document = some secret)
    (hadmits : (rivals.met start).Admits secret) :
    rivals.result start owner document = .ok true := by
  unfold result
  rw [course_of_admits h hadmits]
  rfl

theorem result_of_not_admits (h : rivals.written start owner document = some secret)
    (hrefused : ¬ (rivals.met start).Admits secret) :
    exists text, rivals.result start owner document = .error ⟨.outputWrite, text⟩ := by
  have hput := (put_calls rivals start secret).trans (Registry.put_of_not_admits hrefused)
  unfold result course
  rw [result_commit_of_proposal rfl h, Access.result_write_of_error (congrArg Call.result hput)]
  exact ⟨_, rfl⟩

theorem result_of_not_written (h : rivals.written start owner document = none) :
    rivals.result start owner document ≠ .ok true := by
  intro hresult
  unfold result at hresult
  cases hcommit : (rivals.course start owner document).result with
  | error fault =>
      rw [hcommit] at hresult
      cases hresult
  | ok done =>
      rw [hcommit] at hresult
      injection hresult with hdone
      exact Bool.false_ne_true ((written_of_no_proposal rfl h hcommit).symm.trans hdone)

theorem final_of_admits (h : rivals.written start owner document = some secret)
    (hadmits : (rivals.met start).Admits secret) :
    rivals.final start owner document = ((rivals.met start).put secret).run rivals.after := by
  unfold final
  rw [h]
  exact congrArg (fun call => call.state.run rivals.after) (Registry.put_of_admits hadmits)

theorem final_of_not_admits (h : rivals.written start owner document = some secret)
    (hrefused : ¬ (rivals.met start).Admits secret) :
    rivals.final start owner document = (rivals.met start).run rivals.after := by
  unfold final
  rw [h]
  exact congrArg (fun call => call.state.run rivals.after) (Registry.put_of_not_admits hrefused)

/-- The others find the registry as a commit that has written leaves it. -/
theorem final_of_course {done : Committed (Registry numbering)}
    (h : (rivals.course start owner document).result = .ok done) (hdone : done.written = true) :
    rivals.final start owner document = done.state.run rivals.after := by
  cases hwritten : rivals.written start owner document with
  | none =>
      rw [written_of_no_proposal rfl hwritten h] at hdone
      cases hdone
  | some secret =>
      by_cases hadmits : (rivals.met start).Admits secret
      · rw [final_of_admits hwritten hadmits]
        rw [course_of_admits hwritten hadmits] at h
        cases h
        rfl
      · rcases result_of_not_admits hwritten hadmits with ⟨text, hresult⟩
        unfold result at hresult
        rw [h] at hresult
        cases hresult

/-- A commit that reports a write has met what it has seen and written its secret there. -/
theorem of_result_true (h : rivals.result start owner document = .ok true) :
    (rivals.met start).secret (place owner document) =
        (rivals.seen start).secret (place owner document) ∧
      exists secret, rivals.written start owner document = some secret ∧
        rivals.final start owner document =
          ((rivals.met start).put secret).run rivals.after := by
  cases hwritten : rivals.written start owner document with
  | none => exact absurd h (result_of_not_written hwritten)
  | some secret =>
      by_cases hadmits : (rivals.met start).Admits secret
      · exact ⟨(admits_met_iff hwritten).mp hadmits, secret, rfl,
          final_of_admits hwritten hadmits⟩
      · rcases result_of_not_admits hwritten hadmits with ⟨text, hresult⟩
        rw [hresult] at h
        cases h

theorem final_of_result_ne_true (h : rivals.result start owner document ≠ .ok true) :
    rivals.final start owner document = (rivals.met start).run rivals.after := by
  cases hwritten : rivals.written start owner document with
  | none =>
      unfold final
      rw [hwritten]
  | some secret =>
      by_cases hadmits : (rivals.met start).Admits secret
      · exact absurd (result_of_admits hwritten hadmits) h
      · exact final_of_not_admits hwritten hadmits

end Ends

/-- No commit writes over anything but what it has seen.  If others have been at its secret
between the look-up and the write, the write is refused and what they have done stands, unless
there was no secret to be seen and there is none to be met. -/
theorem commit_writes_over_what_was_seen {numbering : Numbering} (rivals : Rivals)
    (start : Registry numbering) (owner : Projection) (document : Document) :
    (rivals.result start owner document = .ok true ->
      (rivals.met start).secret (place owner document) =
          (rivals.seen start).secret (place owner document) ∧
        exists secret, rivals.written start owner document = some secret ∧
          rivals.final start owner document =
            ((rivals.met start).put secret).run rivals.after) ∧
      (rivals.result start owner document ≠ .ok true ->
        rivals.final start owner document = (rivals.met start).run rivals.after) ∧
      (forall secret, rivals.written start owner document = some secret ->
        Registry.Disturbed (place owner document) (rivals.seen start) rivals.between ->
        ((rivals.seen start).secret (place owner document) ≠ none ∨
          (rivals.met start).secret (place owner document) ≠ none) ->
        exists text, rivals.result start owner document = .error ⟨.outputWrite, text⟩) ∧
      (forall secret, rivals.written start owner document = some secret ->
        (¬ Registry.Disturbed (place owner document) (rivals.seen start) rivals.between ∨
          ((rivals.seen start).secret (place owner document) = none ∧
            (rivals.met start).secret (place owner document) = none)) ->
        rivals.result start owner document = .ok true) := by
  refine ⟨of_result_true, final_of_result_ne_true, ?_, ?_⟩
  · intro secret hwritten hdisturbed hthere
    refine result_of_not_admits hwritten ?_
    intro hadmits
    have hsame := (admits_met_iff hwritten).mp hadmits
    rcases Registry.secret_run_eq_iff.mp hsame with hundisturbed | ⟨hseen, hmet⟩
    · exact hundisturbed hdisturbed
    · rcases hthere with hne | hne
      · exact hne hseen
      · exact hne hmet
  · intro secret hwritten hquiet
    exact result_of_admits hwritten
      ((admits_met_iff hwritten).mpr (Registry.secret_run_eq_iff.mpr hquiet))

/-!
## Two courses

A secret that was seen is edited and then given its content back.  Another one is created and
deleted where none was seen.
-/

namespace Sample

def owner : Projection := Sync.Sample.projection "p" none

def document : Document := ⟨"app-creds", "Opaque", .empty, .empty, .ofList [("password", "p")]⟩

/-- The secret of another writer, under the name of the output. -/
def foreign (value : Bytes) : Secret where
  data := some (.ofList [("user", value)])
  immutable := none
  metadata := { Metadata.empty with name := some "app-creds", namespaceName := some "team-a" }
  stringData := none
  type := none

def restored : Rivals :=
  ⟨[.create (foreign [104, 105])], [.edit (foreign [98]), .edit (foreign [104, 105])], []⟩

def fleeting : Rivals :=
  ⟨[], [.create (foreign [104, 105]), .delete ("team-a", "app-creds")], []⟩

def start : Registry .decimal := .empty .decimal

end Sample

theorem restored_secret_kept :
    (Sample.restored.met Sample.start).secret (place Sample.owner Sample.document) ≠ none ∧
      (exists text, Sample.restored.result Sample.start Sample.owner Sample.document =
        .error ⟨.outputWrite, text⟩) ∧
      Sample.restored.final Sample.start Sample.owner Sample.document =
        Sample.restored.met Sample.start := by
  have hwritten : (Sample.restored.written Sample.start Sample.owner
      Sample.document).isSome = true := by
    decide +kernel
  rcases Option.isSome_iff_exists.mp hwritten with ⟨secret, hsecret⟩
  have hdisturbed : Registry.Disturbed (place Sample.owner Sample.document)
      (Sample.restored.seen Sample.start) Sample.restored.between :=
    .now (.edited rfl rfl)
  have hthere : (Sample.restored.met Sample.start).secret
      (place Sample.owner Sample.document) ≠ none := by
    decide +kernel
  rcases commit_writes_over_what_was_seen Sample.restored Sample.start Sample.owner
    Sample.document with ⟨_, hkept, hrefused, _⟩
  rcases hrefused secret hsecret hdisturbed (Or.inr hthere) with ⟨text, hresult⟩
  refine ⟨hthere, ⟨text, hresult⟩, ?_⟩
  rw [hkept (by rw [hresult]; exact nofun)]
  rfl

theorem fleeting_secret_unnoticed :
    Registry.Disturbed (place Sample.owner Sample.document)
        (Sample.fleeting.seen Sample.start) Sample.fleeting.between ∧
      Sample.fleeting.result Sample.start Sample.owner Sample.document = .ok true ∧
      ¬ exists text, Sample.fleeting.result Sample.start Sample.owner Sample.document =
        .error ⟨.outputWrite, text⟩ := by
  have hresult : Sample.fleeting.result Sample.start Sample.owner Sample.document =
      .ok true := by
    apply ok_of_toOption
    decide +kernel
  refine ⟨.now (.created rfl rfl), hresult, ?_⟩
  intro hrefused
  rcases hrefused with ⟨text, hrefused⟩
  rw [hresult] at hrefused
  cases hrefused

end Rivals

end Output

end SecretProjection
