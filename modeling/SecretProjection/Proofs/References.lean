import SecretProjection.Proofs.Timed
import SecretProjection.Vault.Source

/-!
# References behind a fixed segment

A path of Vault is written behind the segment of the interface version and becomes a reference
relative to the configured address.  The fixed segment decides how the reference is read: nothing
is cleaned off before it, it is no scheme, and no authority begins with it.  So whatever the path
says, it can only change what comes behind the authority, and a session token is shown to the
configured server alone.
-/

namespace SecretProjection

universe u v w

namespace Url

/-!
## Addresses that were read
-/

variable {scheme text : List Char} {url : Url}

theorem withAuthority_eq_ok (h : withAuthority scheme text = .ok url) :
    url.scheme = scheme ∧ exists rest, url.path = .segments (pathOf scheme rest) := by
  unfold withAuthority at h
  dsimp only at h
  split at h
  · cases h
  · cases h
    exact ⟨rfl, _, rfl⟩

theorem ofScheme_eq_ok (h : ofScheme scheme text = .ok url) (hspecial : isSpecial scheme = true) :
    url.scheme = scheme ∧ exists rest, url.path = .segments (pathOf scheme rest) := by
  unfold ofScheme at h
  by_cases hfile : (scheme == "file".toList) = true
  · rw [if_pos hfile] at h
    exact withAuthority_eq_ok h
  · rw [if_neg hfile, if_pos hspecial] at h
    exact withAuthority_eq_ok h

theorem scheme_of_ofScheme (h : ofScheme scheme text = .ok url) : url.scheme = scheme := by
  by_cases hspecial : isSpecial scheme = true
  · exact (ofScheme_eq_ok h hspecial).1
  · have hfile : ¬ (scheme == "file".toList) = true := by
      intro heq
      rw [beq_iff_eq.mp heq] at hspecial
      exact hspecial (by decide)
    unfold ofScheme at h
    rw [if_neg hfile, if_neg hspecial] at h
    split at h
    · exact (withAuthority_eq_ok h).1
    · cases h
      rfl

/-- An address with a special scheme has a path of segments. -/
theorem exists_segments_of_parse {text : String} (h : parse text = .ok url)
    (hspecial : isSpecial url.scheme = true) :
    exists rest, url.path = .segments (pathOf url.scheme rest) := by
  unfold parse parseChars at h
  split at h
  · cases h
  · rename_i scheme rest hsplit
    have hscheme := scheme_of_ofScheme h
    rw [hscheme] at hspecial ⊢
    exact (ofScheme_eq_ok h hspecial).2

/-!
## Cleaning
-/

/-- A text without what is cleaned off behind a fixed start. -/
def cleanEnd (text : List Char) : List Char :=
  (text.reverse.dropWhile isOuter).reverse.filter fun c => !isBreak c

/-- A start that ends in a character that stays keeps all before it. -/
theorem dropWhile_append_cons {p : Char -> Bool} {c : Char} (hc : p c = false)
    (text rest : List Char) :
    (text ++ c :: rest).dropWhile p = text.dropWhile p ++ c :: rest := by
  rw [List.dropWhile_append]
  by_cases hempty : (text.dropWhile p).isEmpty = true
  · rw [if_pos hempty, List.isEmpty_iff.mp hempty, List.dropWhile_cons_of_neg (by simp [hc])]
    rfl
  · rw [if_neg hempty]

theorem clean_apiRoot (text : List Char) :
    clean (Vault.apiRoot ++ text) = Vault.apiRoot ++ cleanEnd text := by
  have hstart : (Vault.apiRoot ++ text).dropWhile isOuter = Vault.apiRoot ++ text := rfl
  have hend : (Vault.apiRoot ++ text).reverse = text.reverse ++ '/' :: ['1', 'v'] := by
    simp [Vault.apiRoot]
  unfold clean
  rw [hstart, hend, dropWhile_append_cons (by decide), List.reverse_append, List.filter_append]
  rfl

/-!
## Joining
-/

theorem splitScheme_apiRoot (text : List Char) : splitScheme (Vault.apiRoot ++ text) = none := rfl

theorem namesAuthority_apiRoot (special : Bool) (text : List Char) :
    namesAuthority special (Vault.apiRoot ++ text) = false := by
  cases special <;> rfl

theorem takeWhile_apiRoot (text : List Char) :
    (Vault.apiRoot ++ text).takeWhile (fun c => !endsPath c) =
      Vault.apiRoot ++ text.takeWhile fun c => !endsPath c := rfl

theorem dropWhile_apiRoot (text : List Char) :
    (Vault.apiRoot ++ text).dropWhile (fun c => !endsPath c) =
      text.dropWhile fun c => !endsPath c := rfl

theorem joinSegments_apiRoot (base : Url) (parts : List (List Char)) (text : List Char) :
    joinSegments base parts (Vault.apiRoot ++ text) =
      resolveSegments base parts (Vault.apiRoot ++ text) := by
  have hslash : isSlash (isSpecial base.scheme) 'v' = false := by
    cases isSpecial base.scheme <;> rfl
  show (if isSlash (isSpecial base.scheme) 'v' = true then _ else _) = _
  rw [hslash]
  rfl

/-- What a reference behind the fixed segment leads to: path, query and fragment are new, scheme
and authority those of the base. -/
theorem join_apiRoot {base : Url} {parts : List (List Char)} (hpath : base.path = .segments parts)
    (text : List Char) :
    base.join (Vault.apiRoot ++ text) =
      let path := (cleanEnd text).takeWhile fun c => !endsPath c
      let behind := (cleanEnd text).dropWhile fun c => !endsPath c
      .ok { base with
        path := .segments (resolveSegments base parts (Vault.apiRoot ++ path))
        query := queryOf (isSpecial base.scheme) behind
        fragment := fragmentOf behind } := by
  simp only [join, clean_apiRoot, splitScheme_apiRoot, follow, hpath, namesAuthority_apiRoot,
    takeWhile_apiRoot, dropWhile_apiRoot, joinSegments_apiRoot]
  rfl

/-!
## Servers
-/

/-- Two addresses belong to the same server, and name the same user. -/
structure SameServer (url other : Url) : Prop where
  scheme : url.scheme = other.scheme
  authority : url.authority = other.authority

theorem SameServer.withoutUser {url other : Url} (h : url.SameServer other) :
    url.withoutUser.SameServer other.withoutUser where
  scheme := h.scheme
  authority := congrArg (Option.map _) h.authority

theorem exists_asDirectory {url : Url} {parts : List (List Char)} (h : url.path = .segments parts) :
    exists directory, url.asDirectory = { url with path := .segments directory } := by
  unfold asDirectory
  rw [h]
  exact ⟨_, rfl⟩

end Url

namespace Vault

open Projection

/-!
## Endpoints
-/

theorem isSpecial_of_isReachable {scheme : List Char} (h : isReachable scheme = true) :
    Url.isSpecial scheme = true := by
  rcases Bool.or_eq_true_iff.mp h with heq | heq
  · rw [beq_iff_eq.mp heq]
    decide
  · rw [beq_iff_eq.mp heq]
    decide

/-- Every path has an endpoint, and it lies on the server of the address. -/
theorem exists_endpoint {address : Url} {parts : List (List Char)}
    (hpath : address.path = .segments parts) (path : String) :
    exists url, endpoint address path = .ok url ∧ url.SameServer address := by
  rcases Url.exists_asDirectory hpath with ⟨directory, hdirectory⟩
  unfold endpoint endpointFrom
  rw [hdirectory, Url.join_apiRoot rfl]
  exact ⟨_, rfl, rfl, rfl⟩

namespace Access

/-!
## Requests
-/

variable {σ : Type u} {α : Type v} {access : Access σ}

/-- Asking the cluster sends nothing to Vault. -/
theorem not_mem_events_contact {sent : Request} {call : Cluster.Call σ α}
    {fault : Cluster.Failure -> Fault} : .vault sent ∉ (contact call fault).events := by
  simp [contact, Timed.events]

theorem address_of_prepare {request sent : Request} (h : request.prepare = .ok sent) :
    sent.address = request.address.withoutUser := by
  unfold Request.prepare at h
  dsimp only at h
  split at h
  · cases h
  · split at h
    · cases h
    · split at h
      · cases h
      · cases h
        rfl

/-- The only request of an exchange goes to the address it was made for. -/
theorem address_of_ask {request sent : Request} {fault : Failure -> Fault}
    {read : Answer -> Except Fault α}
    (h : .vault sent ∈ (access.ask request fault read).events) :
    sent.address = request.address.withoutUser := by
  unfold ask at h
  split at h
  · cases h
  · rename_i prepared hprepare
    rcases List.mem_singleton.mp h with ⟨⟩
    exact address_of_prepare hprepare

/-- A request to Vault goes to the configured server.  What the address says about a user is no
part of a request. -/
def Reaches (access : Access σ) (sent : Request) : Prop :=
  sent.address.SameServer access.address.withoutUser

section Requests

variable {parts : List (List Char)} {sent : Request}

theorem reaches_of_read (hpath : access.address.path = .segments parts) {session : Session}
    {path : String} (h : .vault sent ∈ (access.read session path).events) :
    access.Reaches sent := by
  rcases exists_endpoint hpath path with ⟨url, hurl, hserver⟩
  unfold read at h
  rw [hurl] at h
  unfold Reaches
  rw [address_of_ask h]
  exact hserver.withoutUser

theorem reaches_of_login (hpath : access.address.path = .segments parts) {login : ServiceLogin}
    {vaultNamespace : Option String} {token : String}
    (h : .vault sent ∈ (access.login login vaultNamespace token).events) :
    access.Reaches sent := by
  rcases exists_endpoint hpath (loginPath login.path) with ⟨url, hurl, hserver⟩
  unfold Access.login at h
  rw [hurl] at h
  unfold Reaches
  rw [address_of_ask h]
  exact hserver.withoutUser

theorem not_mem_events_requestToken {space account : String} :
    .vault sent ∉ (access.requestToken space account).events := by
  intro h
  rcases Timed.mem_events_bind h with hcontact | ⟨token, hrest⟩
  · exact not_mem_events_contact hcontact
  · by_cases hempty : token = ""
    · simp [hempty] at hrest
    · simp [hempty] at hrest

theorem not_mem_events_storedToken {space : String} {key : SecretKey} :
    .vault sent ∉ (access.storedToken space key).events := by
  intro h
  rcases Timed.mem_events_bind h with hcontact | ⟨secret, hrest⟩
  · exact not_mem_events_contact hcontact
  · cases secret with
    | none => cases hrest
    | some secret => cases hrest

theorem reaches_of_authenticate (hpath : access.address.path = .segments parts)
    {auth : Authentication} {space : String}
    (h : .vault sent ∈ (access.authenticate auth space).events) : access.Reaches sent := by
  unfold authenticate at h
  cases hmechanism : auth.mechanism with
  | error fault =>
      rw [hmechanism] at h
      cases h
  | ok mechanism =>
      rw [hmechanism] at h
      have hsent : .vault sent ∈ (access.tokenFor auth.vaultNamespace space mechanism).events := h
      cases mechanism with
      | service login =>
          rcases Timed.mem_events_bind hsent with htoken | ⟨token, hlogin⟩
          · exact absurd htoken not_mem_events_requestToken
          · exact reaches_of_login hpath hlogin
      | token key => exact absurd hsent not_mem_events_storedToken

end Requests

/-- Whatever a path says, its endpoint lies on the server of the address, with the same user, and
all requests to Vault, logins and reads alike, go to this server. -/
theorem requests_stay_with_server {text : String} (hparse : Url.parse text = .ok access.address)
    (hscheme : isReachable access.address.scheme = true) :
    (forall path, exists url, endpoint access.address path = .ok url ∧
      url.SameServer access.address) ∧
    (forall mount, exists url, endpoint access.address (loginPath mount) = .ok url ∧
      url.SameServer access.address) ∧
    (forall auth space sent, .vault sent ∈ (access.authenticate auth space).events ->
      access.Reaches sent) ∧
    (forall session path sent, .vault sent ∈ (access.read session path).events ->
      access.Reaches sent) := by
  rcases Url.exists_segments_of_parse hparse (isSpecial_of_isReachable hscheme) with ⟨rest, hpath⟩
  refine ⟨?_, ?_, ?_, ?_⟩
  · intro path
    exact exists_endpoint hpath path
  · intro mount
    exact exists_endpoint hpath (loginPath mount)
  · intro auth space sent h
    exact reaches_of_authenticate hpath h
  · intro session path sent h
    exact reaches_of_read hpath h

/-! A path that looks like the address of another server, read with a token. -/

namespace Sample

/-- A Vault whose address names a user, with a cluster that loses all requests. -/
def proxied : Access Unit where
  address :=
    { scheme := "https".toList
      authority := some ⟨"app".toList, some "pw".toList, "vault.test".toList, some 8200⟩
      path := .segments ["proxy".toList]
      query := none
      fragment := none }
  cluster := ⟨fun state _ => (⟨.zero, .error "lost"⟩, state)⟩
  state := ()
  exchange _ := ⟨.zero, .ok ⟨404, ""⟩⟩

def session : Session := ⟨"s.1", none⟩

/-- The request of the read, on the server of the address. -/
def sent : Request where
  method := .get
  address :=
    { scheme := "https".toList
      authority := some ⟨[], none, "vault.test".toList, some 8200⟩
      path := .segments ["proxy".toList, "v1".toList, [], [], "evil.test".toList, "@x:1".toList]
      query := none
      fragment := none }
  token := some "s.1"
  vaultNamespace := none
  body := none

theorem parse_address :
    Url.parse "https://app:pw@vault.test:8200/proxy" = .ok proxied.address :=
  ok_of_toOption (by decide +kernel)

theorem sent_by_read : .vault sent ∈ (proxied.read session "/\\\\evil.test\t/@x:1").events := by
  decide +kernel

end Sample

theorem hostile_path_stays_with_server :
    Url.parse "https://app:pw@vault.test:8200/proxy" = .ok Sample.proxied.address ∧
      isReachable Sample.proxied.address.scheme = true ∧
      .vault Sample.sent ∈
        (Sample.proxied.read Sample.session "/\\\\evil.test\t/@x:1").events ∧
      Sample.proxied.Reaches Sample.sent :=
  ⟨Sample.parse_address, by decide, Sample.sent_by_read,
    (requests_stay_with_server Sample.parse_address (by decide)).2.2.2 _ _ _ Sample.sent_by_read⟩

end Access

end Vault

end SecretProjection
