import SecretProjection.Controller.Availability
import SecretProjection.Proofs.Snapshots
import Mathlib.Data.List.Sort
import Mathlib.Data.List.Nodup

/-!
# When projections are found

A cluster lists its groups of interfaces, the versions of each, and the kinds of each version.  A
look for projections reads the kinds of one version of their group only, the one that counts
there.  So it finds them exactly where the version that the controller uses is served, has the
kind, and is the one that counts; where another version counts, they are served and not found.

The wait looks again and again.  It ends with the first look that finds them.
-/

namespace SecretProjection

universe u

namespace Cluster

/-!
# The best version
-/

namespace ApiVersion

theorem precedes_total (a b : ApiVersion) : (a.precedes b || b.precedes a) = true := by
  cases a with
  | other name =>
      cases b with
      | other text => simpa [precedes] using String.le_total name text
      | regular major stage minor => rfl
  | regular major stage minor =>
      cases b with
      | other text => rfl
      | regular number level rest =>
          simp only [precedes]
          grind

theorem precedes_trans (a b c : ApiVersion) (hab : a.precedes b = true)
    (hbc : b.precedes c = true) : a.precedes c = true := by
  cases a with
  | other name =>
      cases b with
      | regular major stage minor => cases hab
      | other text =>
          cases c with
          | regular major stage minor => cases hbc
          | other last =>
              simp only [precedes, decide_eq_true_eq] at hab hbc ⊢
              exact String.le_trans hab hbc
  | regular major stage minor =>
      cases c with
      | other text => rfl
      | regular number level rest =>
          cases b with
          | other text => cases hbc
          | regular middle between least =>
              simp only [precedes] at hab hbc ⊢
              grind

end ApiVersion

section Sorting

variable {α : Type u} {le : α -> α -> Bool} {a : α} {items : List α}
  (htrans : forall a b c, le a b = true -> le b c = true -> le a c = true)
  (htotal : forall a b, (le a b || le b a) = true)

include htrans htotal

theorem le_of_head?_mergeSort (h : (items.mergeSort le).head? = some a) :
    forall b, b ∈ items -> le a b = true := by
  intro b hb
  have hpairwise := List.pairwise_mergeSort htrans htotal items
  rcases List.head?_eq_some_iff.mp h with ⟨rest, hsorted⟩
  rw [hsorted, List.pairwise_cons] at hpairwise
  have hmem : b ∈ a :: rest := by
    rw [← hsorted]
    exact List.mem_mergeSort.mpr hb
  rcases List.mem_cons.mp hmem with rfl | hrest
  · simpa using htotal b b
  · exact hpairwise.1 b hrest

/-- Sorting keeps the order of what is equally good, so that the first of the best comes first. -/
theorem exists_append_of_head?_mergeSort (h : (items.mergeSort le).head? = some a) :
    exists before after, items = before ++ a :: after ∧ forall b, b ∈ before -> le b a = false := by
  induction items with
  | nil => simp at h
  | cons c items ih =>
      rcases List.mergeSort_cons htrans htotal c items with ⟨front, back, hwhole, hrest, hfront⟩
      cases front with
      | nil =>
          rw [hwhole] at h
          cases h
          exact ⟨[], items, rfl, fun _ hb => absurd hb List.not_mem_nil⟩
      | cons d front =>
          rw [hwhole] at h
          cases h
          rcases ih (by rw [hrest]; rfl) with ⟨before, after, rfl, hbefore⟩
          refine ⟨c :: before, after, rfl, ?_⟩
          intro b hb
          rcases List.mem_cons.mp hb with rfl | hb
          · simpa using hfront a List.mem_cons_self
          · exact hbefore b hb

theorem head?_mergeSort (items : List α) :
    (items.mergeSort le).head? = items.find? fun a => items.all (le a) := by
  cases h : (items.mergeSort le).head? with
  | none =>
      have hnil : items = [] := by
        have hperm := List.mergeSort_perm items le
        rw [List.head?_eq_none_iff.mp h] at hperm
        exact List.nil_perm.mp hperm
      rw [hnil]
      rfl
  | some a =>
      have hbest := le_of_head?_mergeSort htrans htotal h
      rcases exists_append_of_head?_mergeSort htrans htotal h with
        ⟨before, after, heq, hbefore⟩
      symm
      rw [List.find?_eq_some_iff_append]
      refine ⟨List.all_eq_true.mpr hbest, before, after, heq, ?_⟩
      intro b hb
      have ha : a ∈ items := by
        rw [heq]
        simp
      rw [Bool.not_eq_true', List.all_eq_false]
      exact ⟨a, ha, by simp [hbefore b hb]⟩

end Sorting

/-!
# What a cluster lists
-/

/-- What a cluster answers when it is asked for its interfaces. -/
structure Listing where
  groups : List ListedGroup
  /-- The kinds of a version, by the path of the version. -/
  resources : String -> List Resource

/-- The version that is as good as all the others, and the first one listed of that sort. -/
def best? (versions : List ListedVersion) : Option ListedVersion :=
  versions.find? fun listed => versions.all fun other =>
    (ApiVersion.ofName listed.version).precedes (ApiVersion.ofName other.version)

/-- The version of a group that counts: the preferred one, or else the best one. -/
def ListedGroup.counted? (group : ListedGroup) : Option String :=
  (group.preferred.or (best? group.versions)).map (·.version)

namespace Listing

/-- A group is listed once, a version is listed once in its group, and the kinds listed for a
version belong to it. -/
structure Orderly (listing : Listing) : Prop where
  groups : (listing.groups.map (·.name)).Nodup
  versions : forall group, group ∈ listing.groups -> (group.versions.map (·.version)).Nodup
  resources : forall group listed resource, group ∈ listing.groups -> listed ∈ group.versions ->
    resource ∈ listing.resources listed.groupVersion -> resource.version = listed.version

/-- The kind is served in this version of the group. -/
def Serves (listing : Listing) (name version kind : String) : Prop :=
  exists group listed resource, group ∈ listing.groups ∧ group.name = name ∧
    listed ∈ group.versions ∧ listed.version = version ∧
    resource ∈ listing.resources listed.groupVersion ∧ resource.kind = kind

/-- This version is the one of the group that counts. -/
def Counts (listing : Listing) (name version : String) : Prop :=
  exists group, group ∈ listing.groups ∧ group.name = name ∧ group.counted? = some version

/-- The only group of a name is the last one of that name. -/
theorem Orderly.getLast?_filter {listing : Listing} {group : ListedGroup}
    (h : listing.Orderly) (hgroup : group ∈ listing.groups) :
    (listing.groups.filter (·.name = group.name)).getLast? = some group := by
  have hmem : group ∈ listing.groups.filter (·.name = group.name) :=
    List.mem_filter.mpr ⟨hgroup, decide_eq_true rfl⟩
  have hlast := List.getLast?_eq_some_getLast (List.ne_nil_of_mem hmem)
  have hlastMem := List.mem_filter.mp (List.mem_of_getLast? hlast)
  rw [hlast, List.inj_on_of_nodup_map h.groups hlastMem.1 hgroup (of_decide_eq_true hlastMem.2)]

/-- A version with its kinds. -/
def served (listing : Listing) (listed : ListedVersion) : ServedVersion :=
  ⟨listed.version, listing.resources listed.groupVersion⟩

/-- A group as it is put together from the answers. -/
def assemble (listing : Listing) (group : ListedGroup) : ApiGroup :=
  ⟨group.name, group.preferred.map (·.version),
    ApiGroup.sorted (group.versions.map listing.served)⟩

theorem chosen_assemble (listing : Listing) (group : ListedGroup) :
    (listing.assemble group).chosen = group.counted? := by
  have hhead : (ApiGroup.sorted (group.versions.map listing.served)).head?.map (·.name) =
      (best? group.versions).map (·.version) := by
    unfold ApiGroup.sorted best?
    rw [head?_mergeSort, List.find?_map, Option.map_map]
    · simp only [Function.comp_def, List.all_map, served]
    · exact fun a b c => ApiVersion.precedes_trans _ _ _
    · exact fun a b => ApiVersion.precedes_total _ _
  unfold ApiGroup.chosen ListedGroup.counted? assemble
  simp only [hhead]
  cases group.preferred <;> rfl

theorem exists_of_find?_assemble {listing : Listing} {group : ListedGroup} {version : String}
    {found : ServedVersion}
    (h : (listing.assemble group).versions.find? (fun served => served.name == version) =
      some found) :
    exists listed, listed ∈ group.versions ∧ listed.version = version ∧
      found = listing.served listed := by
  rcases List.mem_map.mp (List.mem_mergeSort.mp (List.mem_of_find?_eq_some h)) with
    ⟨listed, hlisted, rfl⟩
  have hname := List.find?_some h
  simp only [beq_iff_eq] at hname
  exact ⟨listed, hlisted, hname, rfl⟩

theorem find?_assemble {listing : Listing} {group : ListedGroup} {listed : ListedVersion}
    (honce : (group.versions.map (·.version)).Nodup) (h : listed ∈ group.versions) :
    (listing.assemble group).versions.find? (fun served => served.name == listed.version) =
      some (listing.served listed) := by
  have hmem : listing.served listed ∈ (listing.assemble group).versions :=
    List.mem_mergeSort.mpr (List.mem_map_of_mem h)
  cases hfind : (listing.assemble group).versions.find?
      (fun served => served.name == listed.version) with
  | none => exact absurd (beq_self_eq_true _) (List.find?_eq_none.mp hfind _ hmem)
  | some found =>
      rcases exists_of_find?_assemble hfind with ⟨other, hother, hname, rfl⟩
      rw [List.inj_on_of_nodup_map honce hother h hname]

theorem mem_recommended_assemble {listing : Listing} {group : ListedGroup} {resource : Resource}
    (honce : (group.versions.map (·.version)).Nodup) :
    resource ∈ (listing.assemble group).recommended <->
      exists listed, listed ∈ group.versions ∧ group.counted? = some listed.version ∧
        resource ∈ listing.resources listed.groupVersion := by
  unfold ApiGroup.recommended
  rw [chosen_assemble]
  constructor
  · intro h
    cases hcounted : group.counted? with
    | none =>
        rw [hcounted] at h
        exact absurd h List.not_mem_nil
    | some version =>
        simp only [hcounted] at h
        cases hfind : (listing.assemble group).versions.find?
            (fun served => served.name == version) with
        | none =>
            rw [hfind] at h
            exact absurd h List.not_mem_nil
        | some found =>
            rw [hfind] at h
            rcases exists_of_find?_assemble hfind with ⟨listed, hlisted, rfl, rfl⟩
            exact ⟨listed, hlisted, rfl, h⟩
  · rintro ⟨listed, hlisted, hcounted, h⟩
    simp only [hcounted, find?_assemble honce hlisted]
    exact h

end Listing

/-!
# Asking
-/

section Asking

variable {σ : Type u} {api : Api σ} {state : σ} {listing : Listing} {name : String}

/-- The cluster answers with the kinds of this listing when it is asked for those of a version, and
stays as it is. -/
def ShowsKinds (api : Api σ) (state : σ) (listing : Listing) (listed : ListedVersion) : Prop :=
  (inquire api state (groupsPath ++ "/" ++ listed.groupVersion) resourcesFormat).found =
      some (listing.resources listed.groupVersion) ∧
    (inquire api state (groupsPath ++ "/" ++ listed.groupVersion) resourcesFormat).state = state

/-- The cluster answers with this listing when it is asked for its groups and then for the kinds of
the group of this name.  Only the first question may change its state. -/
structure Shows (api : Api σ) (state : σ) (name : String) (listing : Listing) : Prop where
  groups : (inquire api state groupsPath groupsFormat).found = some listing.groups
  kinds : forall group listed, group ∈ listing.groups -> group.name = name ->
    listed ∈ group.versions ->
      ShowsKinds api (inquire api state groupsPath groupsFormat).state listing listed

theorem Inquiry.found_andThen {α β : Type} {first : Inquiry σ α} {next : σ -> α -> Inquiry σ β}
    {value : α} (h : first.found = some value) :
    (first.andThen next).found = (next first.state value).found ∧
      (first.andThen next).state = (next first.state value).state := by
  unfold Inquiry.andThen
  simp only [h, and_self]

theorem Inquiry.found_andThen_of_none {α β : Type} {first : Inquiry σ α}
    {next : σ -> α -> Inquiry σ β} (h : first.found = none) :
    (first.andThen next).found = none := by
  unfold Inquiry.andThen
  simp only [h]

theorem Inquiry.state_andThen {α β : Type} {first : Inquiry σ α} {next : σ -> α -> Inquiry σ β}
    (hfirst : first.state = state) (hnext : forall value, (next state value).state = state) :
    (first.andThen next).state = state := by
  unfold Inquiry.andThen
  cases first.found with
  | none => exact hfirst
  | some value =>
      simp only [hfirst]
      exact hnext value

theorem inquireVersions_of_shown {versions : List ListedVersion}
    (h : forall listed, listed ∈ versions -> ShowsKinds api state listing listed) :
    (inquireVersions api state versions).found = some (versions.map listing.served) ∧
      (inquireVersions api state versions).state = state := by
  induction versions with
  | nil => exact ⟨rfl, rfl⟩
  | cons listed rest ih =>
      rcases h listed List.mem_cons_self with ⟨hfound, hstate⟩
      rcases ih fun other hother => h other (List.mem_cons_of_mem _ hother) with
        ⟨hrest, hrestState⟩
      unfold inquireVersions
      rw [(Inquiry.found_andThen hfound).1, (Inquiry.found_andThen hfound).2, hstate,
        (Inquiry.found_andThen hrest).1, (Inquiry.found_andThen hrest).2]
      exact ⟨rfl, hrestState⟩

theorem inquireGroup_of_shown {group : ListedGroup} (hne : group.versions ≠ [])
    (h : forall listed, listed ∈ group.versions -> ShowsKinds api state listing listed) :
    (inquireGroup api state group).found = some (listing.assemble group) ∧
      (inquireGroup api state group).state = state := by
  rcases inquireVersions_of_shown h with ⟨hfound, hstate⟩
  unfold inquireGroup
  rw [if_neg hne, (Inquiry.found_andThen hfound).1, (Inquiry.found_andThen hfound).2]
  exact ⟨rfl, hstate⟩

/-- The groups of a name are found unless one of them has no versions. -/
theorem found_inquireGroups_of_shown {groups : List ListedGroup}
    (h : forall group listed, group ∈ groups -> group.name = name -> listed ∈ group.versions ->
      ShowsKinds api state listing listed) :
    (inquireGroups api name state groups).found =
      if exists group, group ∈ groups ∧ group.name = name ∧ group.versions = [] then none
      else some ((groups.filter (·.name = name)).map listing.assemble) := by
  induction groups with
  | nil => simp [inquireGroups, Inquiry.done]
  | cons group rest ih =>
      have hrest := ih fun other listed hother =>
        h other listed (List.mem_cons_of_mem _ hother)
      unfold inquireGroups
      by_cases hname : group.name = name
      · rw [if_pos hname]
        by_cases hempty : group.versions = []
        · have hnone : (inquireGroup api state group).found = none := by
            unfold inquireGroup
            rw [if_pos hempty]
          rw [Inquiry.found_andThen_of_none hnone,
            if_pos ⟨group, List.mem_cons_self, hname, hempty⟩]
        · rcases inquireGroup_of_shown hempty
            (fun listed => h group listed List.mem_cons_self hname) with ⟨hfound, hstate⟩
          rw [(Inquiry.found_andThen hfound).1, hstate]
          by_cases hothers : exists other, other ∈ rest ∧ other.name = name ∧
              other.versions = []
          · rw [if_pos hothers] at hrest
            rcases hothers with ⟨other, hother, hsame⟩
            rw [Inquiry.found_andThen_of_none hrest,
              if_pos ⟨other, List.mem_cons_of_mem _ hother, hsame⟩]
          · rw [if_neg hothers] at hrest
            rw [(Inquiry.found_andThen hrest).1, if_neg]
            · simp [Inquiry.done, hname]
            · rintro ⟨other, hother, hsame⟩
              rcases List.mem_cons.mp hother with rfl | hother
              · exact hempty hsame.2
              · exact hothers ⟨other, hother, hsame⟩
      · rw [if_neg hname, hrest]
        simp [hname]

theorem found_discover (h : Shows api state name listing) :
    (discover api name state).found =
      if exists group, group ∈ listing.groups ∧ group.name = name ∧ group.versions = [] then none
      else some ((listing.groups.filter (·.name = name)).getLast?.map listing.assemble) := by
  have hgroups := found_inquireGroups_of_shown h.kinds
  unfold discover
  rw [(Inquiry.found_andThen h.groups).1]
  by_cases hempty : exists group, group ∈ listing.groups ∧ group.name = name ∧
      group.versions = []
  · rw [if_pos hempty] at hgroups ⊢
    exact Inquiry.found_andThen_of_none hgroups
  · rw [if_neg hempty] at hgroups ⊢
    rw [(Inquiry.found_andThen hgroups).1, List.getLast?_map]
    rfl

/-! ## Clusters that look-ups leave as they are -/

theorem Server.Answers.found_inquire {α : Type} {server : Server} {target : String}
    {response : Response} {format : Format α} {object : α}
    (h : server.Answers .get target response)
    (hread : readResponse format response = .ok object) :
    (inquire Server.api server target format).found = some object := by
  have hcanned := h.canned
  unfold inquire Call.sendTo Request.of?
  rw [h.path, Option.map_some, String.ofList_toList]
  simp only [Call.send, Server.api, Server.send, Server.cannedKey, hcanned, hread]
  rfl

section Steady

variable (hkeep : api.LookUpsKeepState)

include hkeep

theorem state_inquire {α : Type} (target : String) (format : Format α) :
    (inquire api state target format).state = state := by
  unfold inquire Call.sendTo
  cases hrequest : Request.of? .get target none with
  | none => rfl
  | some request =>
      rcases Option.map_eq_some_iff.mp hrequest with ⟨parts, _, rfl⟩
      exact hkeep state _ rfl

theorem state_inquireVersions (versions : List ListedVersion) :
    (inquireVersions api state versions).state = state := by
  induction versions with
  | nil => rfl
  | cons listed rest ih =>
      unfold inquireVersions
      apply Inquiry.state_andThen (state_inquire hkeep _ _)
      intro resources
      exact Inquiry.state_andThen ih fun served => rfl

theorem state_inquireGroups (groups : List ListedGroup) :
    (inquireGroups api name state groups).state = state := by
  induction groups with
  | nil => rfl
  | cons group rest ih =>
      unfold inquireGroups inquireGroup
      split
      · apply Inquiry.state_andThen
        · split
          · rfl
          · exact Inquiry.state_andThen (state_inquireVersions hkeep _) fun versions => rfl
        · intro found
          exact Inquiry.state_andThen ih fun groups => rfl
      · exact ih

theorem state_discover : (discover api name state).state = state := by
  unfold discover
  apply Inquiry.state_andThen (state_inquire hkeep _ _)
  intro groups
  exact Inquiry.state_andThen (state_inquireGroups hkeep groups) fun found => rfl

end Steady

end Asking

end Cluster

namespace Controller

open Cluster

variable {σ : Type u} {api : Api σ} {state : σ} {listing : Listing}

theorem found_lookForUnits (h : Shows api state Projection.group listing) :
    (lookForUnits api state).found =
      if exists group, group ∈ listing.groups ∧ group.name = Projection.group ∧
          group.versions = [] then none
      else some (((listing.groups.filter (·.name = Projection.group)).getLast?).any fun group =>
        offersUnits (listing.assemble group)) := by
  have hdiscovered := found_discover h
  unfold lookForUnits
  by_cases hempty : exists group, group ∈ listing.groups ∧ group.name = Projection.group ∧
      group.versions = []
  · rw [if_pos hempty] at hdiscovered ⊢
    exact Inquiry.found_andThen_of_none hdiscovered
  · rw [if_neg hempty] at hdiscovered ⊢
    rw [(Inquiry.found_andThen hdiscovered).1]
    cases (listing.groups.filter (·.name = Projection.group)).getLast? <;> rfl

theorem offersUnits_assemble {group : ListedGroup} (horderly : listing.Orderly)
    (h : group ∈ listing.groups) :
    offersUnits (listing.assemble group) = true <->
      group.counted? = some Projection.version ∧
        exists listed resource, listed ∈ group.versions ∧ listed.version = Projection.version ∧
          resource ∈ listing.resources listed.groupVersion ∧
          resource.kind = Projection.kind := by
  unfold offersUnits isUnitKind
  simp only [List.any_eq_true, Bool.and_eq_true, beq_iff_eq,
    Listing.mem_recommended_assemble (horderly.versions group h)]
  constructor
  · rintro ⟨resource, ⟨listed, hlisted, hcounted, hresource⟩, hkind, hversion⟩
    rw [horderly.resources group listed resource h hlisted hresource] at hversion
    exact ⟨hversion ▸ hcounted, listed, resource, hlisted, hversion, hresource, hkind⟩
  · rintro ⟨hcounted, listed, resource, hlisted, hversion, hresource, hkind⟩
    refine ⟨resource, ⟨listed, hlisted, hversion ▸ hcounted, hresource⟩, hkind, ?_⟩
    rw [horderly.resources group listed resource h hlisted hresource, hversion]

/-- A look finds projections where their version is served with the kind and counts. -/
theorem found_lookForUnits_iff (h : Shows api state Projection.group listing)
    (horderly : listing.Orderly) :
    (lookForUnits api state).found = some true <->
      listing.Serves Projection.group Projection.version Projection.kind ∧
        listing.Counts Projection.group Projection.version := by
  rw [found_lookForUnits h]
  constructor
  · intro hfound
    split at hfound
    · cases hfound
    · cases hlast : (listing.groups.filter (·.name = Projection.group)).getLast? with
      | none =>
          rw [hlast] at hfound
          cases hfound
      | some group =>
          rw [hlast] at hfound
          have hoffers := Option.some.inj hfound
          have hmem := List.mem_filter.mp (List.mem_of_getLast? hlast)
          have hname : group.name = Projection.group := of_decide_eq_true hmem.2
          rcases (offersUnits_assemble horderly hmem.1).mp hoffers with
            ⟨hcounted, listed, resource, hlisted, hversion, hresource, hkind⟩
          exact ⟨⟨group, listed, resource, hmem.1, hname, hlisted, hversion, hresource, hkind⟩,
            group, hmem.1, hname, hcounted⟩
  · rintro ⟨⟨group, listed, resource, hgroup, hname, hlisted, hversion, hresource, hkind⟩,
      other, hother, hotherName, hcounted⟩
    have honly : forall found, found ∈ listing.groups -> found.name = Projection.group ->
        found = group :=
      fun found hfound hfoundName =>
        List.inj_on_of_nodup_map horderly.groups hfound hgroup (hfoundName.trans hname.symm)
    have hversions : ¬ exists empty, empty ∈ listing.groups ∧
        empty.name = Projection.group ∧ empty.versions = [] := by
      rintro ⟨empty, hempty, hemptyName, hnone⟩
      rw [honly empty hempty hemptyName] at hnone
      rw [hnone] at hlisted
      exact absurd hlisted List.not_mem_nil
    rw [honly other hother hotherName] at hcounted
    rw [if_neg hversions, ← hname, horderly.getLast?_filter hgroup]
    exact congrArg some ((offersUnits_assemble horderly hgroup).mpr
      ⟨hcounted, listed, resource, hlisted, hversion, hresource, hkind⟩)

/-!
# Waiting
-/

/-- The state of the cluster before a look, when no earlier one ends the wait. -/
def stateAt (api : Api σ) (state : σ) : Nat -> σ
  | 0 => state
  | count + 1 => (lookForUnits api (stateAt api state count)).state

def lookAt (api : Api σ) (state : σ) (count : Nat) : Inquiry σ Bool :=
  lookForUnits api (stateAt api state count)

theorem stateAt_of_keep (hkeep : api.LookUpsKeepState) (count : Nat) :
    stateAt api state count = state := by
  induction count with
  | zero => rfl
  | succ count ih =>
      rw [stateAt, ih]
      exact Inquiry.state_andThen (state_discover hkeep) fun found => rfl

/-- The pause behind a look. -/
def pauseAfter : Nat -> Duration
  | 0 => firstPause
  | count + 1 => nextPause (pauseAfter count)

/-- The time at which a look starts. -/
def timeOf (api : Api σ) (state : σ) : Nat -> Duration
  | 0 => .zero
  | count + 1 => timeOf api state count + (lookAt api state count).elapsed + pauseAfter count

/-- The requests of a number of looks, from a given one on. -/
def requestsOf (api : Api σ) (state : σ) (first count : Nat) : List Request :=
  (List.range' first count).flatMap fun look => (lookAt api state look).requests

theorem firstPause_le_pauseAfter (count : Nat) : firstPause ≤ pauseAfter count := by
  induction count with
  | zero => exact Nat.le_refl _
  | succ count ih =>
      unfold pauseAfter nextPause
      split
      · decide
      · rw [Duration.le_iff] at ih ⊢
        rw [Duration.nanoseconds_add]
        omega

theorem nanoseconds_timeOf_add (api : Api σ) (state : σ) (count more : Nat) :
    (timeOf api state count).nanoseconds + more * firstPause.nanoseconds ≤
      (timeOf api state (count + more)).nanoseconds := by
  induction more with
  | zero => simp
  | succ more ih =>
      have hpause := Duration.le_iff.mp (firstPause_le_pauseAfter (count + more))
      rw [← Nat.add_assoc, timeOf, Duration.nanoseconds_add, Duration.nanoseconds_add,
        Nat.add_mul]
      omega

/-- There are rounds enough for every look that starts within the limit. -/
theorem lt_roundsWithin {limit : Duration} {count : Nat}
    (h : timeOf api state count ≤ limit) : count < roundsWithin limit := by
  have htime := nanoseconds_timeOf_add api state 0 count
  rw [Duration.le_iff] at h
  rw [Nat.zero_add] at htime
  unfold roundsWithin
  rw [Nat.lt_succ_iff, Nat.le_div_iff_mul_le (by decide)]
  omega

section Rounds

variable {limit now pause : Duration} {rounds : Nat}

theorem waitFrom_of_found (hlimit : ¬ limit < now)
    (h : (lookForUnits api state).found = some true) :
    waitFrom api limit state now pause (rounds + 1) =
      ⟨(lookForUnits api state).requests, some (now + (lookForUnits api state).elapsed)⟩ := by
  rw [waitFrom, if_neg hlimit]
  simp only [h, if_true]

theorem waitFrom_of_not_found (hlimit : ¬ limit < now)
    (h : (lookForUnits api state).found ≠ some true) :
    waitFrom api limit state now pause (rounds + 1) =
      ⟨(lookForUnits api state).requests ++
        (waitFrom api limit (lookForUnits api state).state
          (now + (lookForUnits api state).elapsed + pause) (nextPause pause) rounds).requests,
        (waitFrom api limit (lookForUnits api state).state
          (now + (lookForUnits api state).elapsed + pause) (nextPause pause) rounds).found⟩ := by
  rw [waitFrom, if_neg hlimit]
  simp only [h, if_false]

/-- The wait from one look on, up to the first look that finds projections. -/
theorem waitFrom_of_first (first more : Nat)
    (hfound : (lookAt api state (first + more)).found = some true)
    (hbefore : forall look, first ≤ look -> look < first + more ->
      (lookAt api state look).found ≠ some true)
    (hlimit : timeOf api state (first + more) ≤ limit) (hrounds : more < rounds) :
    waitFrom api limit (stateAt api state first) (timeOf api state first) (pauseAfter first)
        rounds =
      ⟨requestsOf api state first (more + 1),
        some (timeOf api state (first + more) +
          (lookAt api state (first + more)).elapsed)⟩ := by
  induction more generalizing first rounds with
  | zero =>
      cases rounds with
      | zero => cases hrounds
      | succ rounds =>
          rw [Nat.add_zero] at hfound hlimit ⊢
          rw [waitFrom_of_found (Nat.not_lt.mpr hlimit) hfound]
          simp [requestsOf, lookAt]
  | succ more ih =>
      cases rounds with
      | zero => cases hrounds
      | succ rounds =>
          have htime := nanoseconds_timeOf_add api state first (more + 1)
          have hstart : ¬ limit < timeOf api state first := by
            rw [Duration.le_iff] at hlimit
            rw [Duration.lt_iff]
            omega
          have hnumber : first + (more + 1) = first + 1 + more := by omega
          rw [hnumber] at hfound hlimit hbefore ⊢
          have hlater := ih (first + 1) hfound
            (fun look hlook => hbefore look (Nat.le_of_succ_le hlook)) hlimit
            (Nat.lt_of_succ_lt_succ hrounds)
          rw [waitFrom_of_not_found hstart (hbefore first (Nat.le_refl _) (by omega))]
          change Wait.mk (_ ++ (waitFrom api limit (stateAt api state (first + 1))
            (timeOf api state (first + 1)) (pauseAfter (first + 1)) rounds).requests)
            (waitFrom api limit (stateAt api state (first + 1))
            (timeOf api state (first + 1)) (pauseAfter (first + 1)) rounds).found = _
          rw [hlater]
          rfl

theorem found_waitFrom_eq_none (first : Nat)
    (h : forall look, timeOf api state look ≤ limit ->
      (lookAt api state look).found ≠ some true) :
    (waitFrom api limit (stateAt api state first) (timeOf api state first) (pauseAfter first)
      rounds).found = none := by
  induction rounds generalizing first with
  | zero => rfl
  | succ rounds ih =>
      by_cases hlimit : limit < timeOf api state first
      · rw [waitFrom, if_pos hlimit]
      · rw [waitFrom_of_not_found hlimit (h first (Nat.not_lt.mp hlimit))]
        exact ih (first + 1)

end Rounds

/-- The cluster answers the look, be it with a listing or with a failure. -/
def Answered (api : Api σ) (state : σ) : Prop :=
  (exists listing, Shows api state Projection.group listing ∧ listing.Orderly) ∨
    (lookForUnits api state).found = none

/-- The cluster serves projections, and in the version that counts. -/
def Offered (api : Api σ) (state : σ) : Prop :=
  exists listing, Shows api state Projection.group listing ∧ listing.Orderly ∧
    listing.Serves Projection.group Projection.version Projection.kind ∧
    listing.Counts Projection.group Projection.version

theorem found_iff_offered (h : Answered api state) :
    (lookForUnits api state).found = some true <-> Offered api state := by
  constructor
  · intro hfound
    rcases h with ⟨listing, hshows, horderly⟩ | hnone
    · exact ⟨listing, hshows, horderly, (found_lookForUnits_iff hshows horderly).mp hfound⟩
    · rw [hnone] at hfound
      cases hfound
  · rintro ⟨listing, hshows, horderly, hboth⟩
    exact (found_lookForUnits_iff hshows horderly).mpr hboth

/-- A look finds projections exactly where they are served in the version that counts, and the
wait ends with the first look at which they are. -/
theorem found_iff_served_and_counted (api : Api σ) (state : σ) :
    (forall listing, Shows api state Projection.group listing -> listing.Orderly ->
      ((lookForUnits api state).found = some true <->
        listing.Serves Projection.group Projection.version Projection.kind ∧
          listing.Counts Projection.group Projection.version)) ∧
    ((forall look, Answered api (stateAt api state look)) -> forall limit,
      (forall look, timeOf api state look ≤ limit -> Offered api (stateAt api state look) ->
        (forall before, before < look -> ¬ Offered api (stateAt api state before)) ->
        waitForUnits api limit state =
          ⟨requestsOf api state 0 (look + 1),
            some (timeOf api state look + (lookAt api state look).elapsed)⟩) ∧
      ((forall look, timeOf api state look ≤ limit -> ¬ Offered api (stateAt api state look)) ->
        (waitForUnits api limit state).found = none)) := by
  refine ⟨fun listing => found_lookForUnits_iff, fun hanswered limit => ⟨?_, ?_⟩⟩
  · intro look htime hoffered hbefore
    have hfound := (found_iff_offered (hanswered look)).mpr hoffered
    have hnone : forall before, before < look ->
        (lookAt api state before).found ≠ some true :=
      fun before hlook hfound =>
        hbefore before hlook ((found_iff_offered (hanswered before)).mp hfound)
    have hrounds := lt_roundsWithin htime
    rw [← Nat.zero_add look] at htime hfound hnone
    have hwait := waitFrom_of_first 0 look hfound (fun before _ => hnone before) htime hrounds
    rwa [Nat.zero_add] at hwait
  · intro hnever
    apply found_waitFrom_eq_none 0
    intro look htime hfound
    exact hnever look htime ((found_iff_offered (hanswered look)).mp hfound)

namespace Sample

/-- The list of two versions of the group, with the preferred one. -/
def groupsText (preferred : String) : String :=
  "\x7b\"groups\":[\x7b\"name\":\"redhatcop.redhat.io\",\"versions\":[" ++
    "\x7b\"groupVersion\":\"redhatcop.redhat.io/v1beta1\",\"version\":\"v1beta1\"\x7d," ++
    "\x7b\"groupVersion\":\"redhatcop.redhat.io/v1alpha1\",\"version\":\"v1alpha1\"\x7d]," ++
    "\"preferredVersion\":\x7b\"groupVersion\":\"redhatcop.redhat.io/" ++ preferred ++
    "\",\"version\":\"" ++ preferred ++ "\"\x7d\x7d]\x7d"

def kindsText (version : String) : String :=
  "\x7b\"groupVersion\":\"redhatcop.redhat.io/" ++ version ++ "\",\"resources\":[" ++
    "\x7b\"kind\":\"VaultSecret\",\"name\":\"vaultsecrets\"\x7d]\x7d"

/-- A cluster that serves the kind in two versions and prefers one of them. -/
def twoVersions (preferred : String) : Server where
  canned := .ofList [
    ("GET /apis", ⟨200, groupsText preferred⟩),
    ("GET /apis/redhatcop.redhat.io/v1beta1", ⟨200, kindsText "v1beta1"⟩),
    ("GET /apis/redhatcop.redhat.io/v1alpha1", ⟨200, kindsText "v1alpha1"⟩)]
  objects := .empty
  versions := 0
  delay := .zero

def shown (preferred : String) : Listing where
  groups := [⟨"redhatcop.redhat.io", some ⟨"redhatcop.redhat.io/" ++ preferred, preferred⟩,
    [⟨"redhatcop.redhat.io/v1beta1", "v1beta1"⟩, ⟨"redhatcop.redhat.io/v1alpha1", "v1alpha1"⟩]⟩]
  resources path := [⟨"vaultsecrets", "VaultSecret", versionOf path⟩]

theorem orderly_shown (preferred : String) : (shown preferred).Orderly where
  groups := List.nodup_singleton _
  versions := by
    intro group hgroup
    rw [List.mem_singleton.mp hgroup]
    exact (show ["v1beta1", "v1alpha1"].Nodup by decide)
  resources := by
    intro group listed resource hgroup hlisted hresource
    rw [List.mem_singleton.mp hresource]
    rw [List.mem_singleton.mp hgroup] at hlisted
    simp only [List.mem_cons, List.not_mem_nil, or_false] at hlisted
    rcases hlisted with rfl | rfl
    · decide +kernel
    · decide +kernel

theorem serves_shown (preferred : String) :
    (shown preferred).Serves Projection.group Projection.version Projection.kind :=
  ⟨_, ⟨"redhatcop.redhat.io/v1alpha1", "v1alpha1"⟩, _, List.mem_cons_self, rfl, by simp, rfl,
    List.mem_cons_self, rfl⟩

theorem counts_shown {preferred version : String} :
    (shown preferred).Counts Projection.group version <-> preferred = version := by
  constructor
  · rintro ⟨group, hgroup, _, hcounted⟩
    rw [List.mem_singleton.mp hgroup] at hcounted
    exact Option.some.inj hcounted
  · rintro rfl
    exact ⟨_, List.mem_cons_self, rfl, rfl⟩

theorem parse_kindsText :
    resourcesFormat.parse (kindsText "v1beta1") =
        .ok ((shown "").resources "redhatcop.redhat.io/v1beta1") ∧
      resourcesFormat.parse (kindsText "v1alpha1") =
        .ok ((shown "").resources "redhatcop.redhat.io/v1alpha1") := by
  constructor
  all_goals
    apply Format.parse_eq_ok
    unfold kindsText
    simp only [String.toList_append]
    decide +kernel

section Preference

variable (preferred : String) (hpreferred : preferred ∈ ["v1beta1", "v1alpha1"])

include hpreferred

theorem answers_twoVersions :
    (twoVersions preferred).Answers .get groupsPath ⟨200, groupsText preferred⟩ ∧
      (twoVersions preferred).Answers .get
        (groupsPath ++ "/" ++ "redhatcop.redhat.io/v1beta1") ⟨200, kindsText "v1beta1"⟩ ∧
      (twoVersions preferred).Answers .get
        (groupsPath ++ "/" ++ "redhatcop.redhat.io/v1alpha1") ⟨200, kindsText "v1alpha1"⟩ := by
  simp only [List.mem_cons, List.not_mem_nil, or_false] at hpreferred
  rcases hpreferred with rfl | rfl
  · refine ⟨⟨?_, ?_⟩, ⟨?_, ?_⟩, ⟨?_, ?_⟩⟩ <;> decide +kernel
  · refine ⟨⟨?_, ?_⟩, ⟨?_, ?_⟩, ⟨?_, ?_⟩⟩ <;> decide +kernel

theorem parse_groupsText :
    groupsFormat.parse (groupsText preferred) = .ok (shown preferred).groups := by
  apply Format.parse_eq_ok
  unfold groupsText
  simp only [String.toList_append]
  simp only [List.mem_cons, List.not_mem_nil, or_false] at hpreferred
  rcases hpreferred with rfl | rfl
  · decide +kernel
  · decide +kernel

theorem shows_shown :
    Shows Server.api (twoVersions preferred) Projection.group (shown preferred) := by
  rcases answers_twoVersions preferred hpreferred with ⟨hgroups, hbeta, halpha⟩
  constructor
  · exact hgroups.found_inquire (readResponse_of_parse rfl (parse_groupsText preferred hpreferred))
  · intro group listed hgroup _ hlisted
    rw [List.mem_singleton.mp hgroup] at hlisted
    refine ⟨?_, state_inquire Server.lookUpsKeepState_api _ _⟩
    rw [state_inquire Server.lookUpsKeepState_api]
    simp only [List.mem_cons, List.not_mem_nil, or_false] at hlisted
    rcases hlisted with rfl | rfl
    · exact hbeta.found_inquire (readResponse_of_parse rfl parse_kindsText.1)
    · exact halpha.found_inquire (readResponse_of_parse rfl parse_kindsText.2)

end Preference

end Sample

/-- Where the version of the controller is the preferred one, the first look ends the wait. -/
theorem preferred_version_found :
    Shows Server.api (Sample.twoVersions "v1alpha1") Projection.group
        (Sample.shown "v1alpha1") ∧
      (lookForUnits Server.api (Sample.twoVersions "v1alpha1")).found = some true ∧
      waitForUnits Server.api .zero (Sample.twoVersions "v1alpha1") =
        ⟨requestsOf Server.api (Sample.twoVersions "v1alpha1") 0 1,
          some (lookAt Server.api (Sample.twoVersions "v1alpha1") 0).elapsed⟩ := by
  have hshows := Sample.shows_shown "v1alpha1" (by decide)
  have horderly := Sample.orderly_shown "v1alpha1"
  have hboth : (Sample.shown "v1alpha1").Serves Projection.group Projection.version
      Projection.kind ∧ (Sample.shown "v1alpha1").Counts Projection.group Projection.version :=
    ⟨Sample.serves_shown _, Sample.counts_shown.mpr rfl⟩
  rcases found_iff_served_and_counted Server.api (Sample.twoVersions "v1alpha1") with
    ⟨hlook, hwait⟩
  refine ⟨hshows, (hlook _ hshows horderly).mpr hboth, ?_⟩
  have hanswered : forall look, Answered Server.api
      (stateAt Server.api (Sample.twoVersions "v1alpha1") look) := by
    intro look
    rw [stateAt_of_keep Server.lookUpsKeepState_api]
    exact .inl ⟨_, hshows, horderly⟩
  have hfirst := (hwait hanswered .zero).1 0 (Nat.le_refl _)
    ⟨_, hshows, horderly, hboth⟩ fun before hbefore => absurd hbefore (Nat.not_lt_zero _)
  rwa [timeOf, Duration.zero_add] at hfirst

/-- The version of the controller is served with the kind.  But another version is preferred, and
so no look finds it and the wait never ends. -/
theorem served_version_overlooked :
    Shows Server.api (Sample.twoVersions "v1beta1") Projection.group (Sample.shown "v1beta1") ∧
      (Sample.shown "v1beta1").Orderly ∧
      (Sample.shown "v1beta1").Serves Projection.group Projection.version Projection.kind ∧
      (lookForUnits Server.api (Sample.twoVersions "v1beta1")).found = some false ∧
      forall limit, (waitForUnits Server.api limit (Sample.twoVersions "v1beta1")).found =
        none := by
  have hshows := Sample.shows_shown "v1beta1" (by decide)
  have horderly := Sample.orderly_shown "v1beta1"
  have hnot : (lookForUnits Server.api (Sample.twoVersions "v1beta1")).found ≠ some true := by
    rw [Ne, found_lookForUnits_iff hshows horderly, Sample.counts_shown]
    exact fun hboth => absurd hboth.2 (by decide)
  refine ⟨hshows, horderly, Sample.serves_shown _, ?_, fun limit => ?_⟩
  · have hversions : ¬ exists group, group ∈ (Sample.shown "v1beta1").groups ∧
        group.name = Projection.group ∧ group.versions = [] := by
      rintro ⟨group, hgroup, _, hnone⟩
      rw [List.mem_singleton.mp hgroup] at hnone
      cases hnone
    rw [found_lookForUnits hshows, if_neg hversions] at hnot ⊢
    rw [Ne, Option.some.injEq, Bool.not_eq_true] at hnot
    rw [hnot]
  · apply found_waitFrom_eq_none 0
    intro look _
    unfold lookAt
    rwa [stateAt_of_keep Server.lookUpsKeepState_api]

end Controller

end SecretProjection
