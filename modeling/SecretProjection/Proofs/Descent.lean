import SecretProjection.Proofs.References

/-!
# Descent from the root of the interface

The segments of a path lead down from the root under which all paths of Vault should lie, one level
each, but a double dot leads up again, also beyond the root.  What a list of segments does to any
path is told by its route: how many levels of the path it climbs over, and the names that it puts
in their place.  So the endpoint of a path lies below the root exactly if its segments never climb
over it, or spell out what they have climbed over once more.
-/

namespace SecretProjection

namespace Url

/-!
## Segments without slashes

The text of a path tells its segments apart as long as there is no slash in them.
-/

def SlashFree (parts : List (List Char)) : Prop := forall part, part ∈ parts -> '/' ∉ part

theorem SlashFree.append {first second : List (List Char)} (hfirst : SlashFree first)
    (hsecond : SlashFree second) : SlashFree (first ++ second) := by
  intro part hmem
  rcases List.mem_append.mp hmem with h | h
  · exact hfirst part h
  · exact hsecond part h

theorem SlashFree.of_subset {parts others : List (List Char)} (h : SlashFree parts)
    (hsubset : others ⊆ parts) : SlashFree others :=
  fun part hmem => h part (hsubset hmem)

theorem slashFree_singleton {part : List Char} (h : '/' ∉ part) : SlashFree [part] := by
  intro other hmem
  rw [List.mem_singleton.mp hmem]
  exact h

theorem hexDigit_ne_slash (n : Nat) (h : n < 16) : hexDigit n ≠ '/' := by
  revert n
  decide

theorem not_slash_mem_encodeByte (byte : UInt8) : '/' ∉ encodeByte byte := by
  have hbound : byte.toNat < 256 := byte.toNat_lt
  have hhigh : hexDigit (byte.toNat / 16) ≠ '/' := hexDigit_ne_slash _ (by omega)
  have hlow : hexDigit (byte.toNat % 16) ≠ '/' := hexDigit_ne_slash _ (by omega)
  simp [encodeByte, hhigh.symm, hlow.symm]

theorem not_slash_mem_encode {set : Char -> Bool} {text : List Char} (h : '/' ∉ text) :
    '/' ∉ encode set text := by
  intro hmem
  rcases List.mem_flatMap.mp hmem with ⟨c, hc, hslash⟩
  unfold encodeChar at hslash
  split at hslash
  · rcases List.mem_flatMap.mp hslash with ⟨byte, _, hbyte⟩
    exact not_slash_mem_encodeByte byte hbyte
  · rw [List.mem_singleton.mp hslash] at h
    exact h hc

/-- No part of a text that is split holds a separator. -/
theorem slashFree_splitBy {isSeparator : Char -> Bool} (hslash : isSeparator '/' = true)
    (text : List Char) : SlashFree (splitBy isSeparator text) := by
  induction text with
  | nil =>
      rw [splitBy]
      exact slashFree_singleton List.not_mem_nil
  | cons c rest ih =>
      rw [splitBy]
      by_cases hc : isSeparator c = true
      · rw [if_pos hc]
        exact (slashFree_singleton List.not_mem_nil).append ih
      · have hne : '/' ≠ c := by
          rintro rfl
          exact hc hslash
        rw [if_neg hc]
        split
        · exact slashFree_singleton (by simp [hne])
        · rename_i part parts hparts
          rw [hparts] at ih
          intro other hmem
          rcases List.mem_cons.mp hmem with rfl | htail
          · have hpart := ih part List.mem_cons_self
            simp [hne, hpart]
          · exact ih other (List.mem_cons_of_mem _ htail)

theorem splitBy_ne_nil (isSeparator : Char -> Bool) (text : List Char) :
    splitBy isSeparator text ≠ [] := by
  cases text with
  | nil => exact List.cons_ne_nil _ _
  | cons c rest =>
      rw [splitBy]
      split
      · exact List.cons_ne_nil _ _
      · split <;> exact List.cons_ne_nil _ _

/-!
## Paths as texts
-/

theorem chars_segments_cons (part : List Char) (parts : List (List Char)) :
    (Path.segments (part :: parts)).chars = '/' :: (part ++ (Path.segments parts).chars) := rfl

/-- Up to its first slash, a text is the segment that it starts with. -/
theorem takeWhile_segment {part : List Char} (h : '/' ∉ part) {rest : List Char}
    (hrest : rest.takeWhile (· ≠ '/') = []) : (part ++ rest).takeWhile (· ≠ '/') = part := by
  have hall : forall c, c ∈ part -> decide (c ≠ '/') = true := by
    intro c hc
    have hne : c ≠ '/' := by
      rintro rfl
      exact h hc
    exact decide_eq_true hne
  rw [List.takeWhile_append_of_pos hall, hrest, List.append_nil]

theorem takeWhile_chars (parts : List (List Char)) :
    (Path.segments parts).chars.takeWhile (· ≠ '/') = [] := by
  cases parts <;> rfl

/-- A path that ends in a slash is the start of another one exactly if its segments are, and
another segment follows them. -/
theorem chars_prefix_iff {root parts : List (List Char)} (hroot : SlashFree root)
    (hparts : SlashFree parts) :
    (Path.segments (root ++ [[]])).chars <+: (Path.segments parts).chars <->
      exists rest, rest ≠ [] ∧ parts = root ++ rest := by
  induction root generalizing parts with
  | nil => cases parts <;> simp [Path.chars]
  | cons name root ih =>
      cases parts with
      | nil => simp [Path.chars]
      | cons part parts =>
          have hname : '/' ∉ name := hroot name List.mem_cons_self
          have hpart : '/' ∉ part := hparts part List.mem_cons_self
          have hbelow := ih (hroot.of_subset (List.subset_cons_self _ _))
            (hparts.of_subset (List.subset_cons_self _ _))
          rw [List.cons_append, chars_segments_cons, chars_segments_cons, List.cons_prefix_cons]
          constructor
          · rintro ⟨_, tail, htail⟩
            have hslash : ((Path.segments (root ++ [[]])).chars ++ tail).takeWhile (· ≠ '/') =
                [] := by
              cases root <;> rfl
            have heq := congrArg (List.takeWhile (· ≠ '/')) htail
            rw [List.append_assoc, takeWhile_segment hname hslash,
              takeWhile_segment hpart (takeWhile_chars parts)] at heq
            subst heq
            rw [List.append_assoc] at htail
            rcases hbelow.mp ⟨tail, List.append_cancel_left htail⟩ with ⟨rest, hne, rfl⟩
            exact ⟨rest, hne, rfl⟩
          · rintro ⟨rest, hne, heq⟩
            injection heq with hhead htail
            subst hhead
            refine ⟨rfl, (List.prefix_append_right_inj _).mpr ?_⟩
            exact hbelow.mpr ⟨rest, hne, htail⟩

/-!
## Routes
-/

/-- A segment that is no dot segment. -/
def isName (segment : List Char) : Bool := !isDoubleDot segment && !isSingleDot segment

/-- The path behind a segment that another one follows. -/
def step (path : List (List Char)) (segment : List Char) : List (List Char) :=
  if isDoubleDot segment then path.dropLast
  else if isSingleDot segment then path
  else path ++ [encode inPath segment]

/-- The empty segment that a dot segment at the end leaves. -/
def ending (segments : List (List Char)) : List (List Char) :=
  match segments.getLast? with
  | none => []
  | some segment => if isName segment then [] else [[]]

theorem walk_eq_foldl (path segments : List (List Char)) :
    walk path segments = segments.foldl step path ++ ending segments := by
  induction segments generalizing path with
  | nil => simp [walk, ending]
  | cons segment rest ih =>
      rw [walk, ih, ih, ih, List.foldl_cons]
      cases rest with
      | nil =>
          by_cases hdouble : isDoubleDot segment = true
          · simp [step, ending, isName, hdouble]
          · by_cases hsingle : isSingleDot segment = true
            · simp [step, ending, isName, hdouble, hsingle]
            · simp [step, ending, isName, hdouble, hsingle]
      | cons next rest =>
          have hending : ending (segment :: next :: rest) = ending (next :: rest) := by
            unfold ending
            rw [List.getLast?_cons_cons]
          rw [hending, if_neg (List.cons_ne_nil _ _), List.append_nil, List.append_nil, step]
          split
          · rfl
          · split <;> rfl

/-- What segments do to a path: they climb over a number of its last segments, and put names in
their place. -/
structure Route where
  climbed : Nat
  names : List (List Char)
  deriving DecidableEq

namespace Route

/-- The route of no segment. -/
def start : Route := ⟨0, []⟩

/-- The path that a route leads to. -/
def on (route : Route) (path : List (List Char)) : List (List Char) :=
  path.take (path.length - route.climbed) ++ route.names

def step (route : Route) (segment : List Char) : Route :=
  if isDoubleDot segment then
    if route.names = [] then { route with climbed := route.climbed + 1 }
    else { route with names := route.names.dropLast }
  else if isSingleDot segment then route
  else { route with names := route.names ++ [encode inPath segment] }

def of (segments : List (List Char)) : Route := segments.foldl step start

@[simp] theorem on_start (path : List (List Char)) : start.on path = path := by
  simp [start, on]

/-- One more segment on the route is one more step from where the route leads to. -/
theorem on_step (route : Route) (segment : List Char) (path : List (List Char)) :
    (route.step segment).on path = Url.step (route.on path) segment := by
  unfold step Url.step
  by_cases hdouble : isDoubleDot segment = true
  · rw [if_pos hdouble, if_pos hdouble]
    by_cases hnames : route.names = []
    · rw [if_pos hnames]
      simp only [on, hnames, List.append_nil, List.dropLast_eq_take, List.length_take,
        List.take_take]
      congr 1
      omega
    · rw [if_neg hnames]
      simp only [on, List.dropLast_append_of_ne_nil hnames]
  · rw [if_neg hdouble, if_neg hdouble]
    split
    · rfl
    · simp only [on, List.append_assoc]

theorem on_foldl (route : Route) (segments path : List (List Char)) :
    (segments.foldl step route).on path = segments.foldl Url.step (route.on path) := by
  induction segments generalizing route with
  | nil => rfl
  | cons segment rest ih => rw [List.foldl_cons, List.foldl_cons, ih, on_step]

end Route

/-- A walk follows its route. -/
theorem walk_eq (path segments : List (List Char)) :
    walk path segments = (Route.of segments).on path ++ ending segments := by
  rw [walk_eq_foldl, Route.of, Route.on_foldl, Route.on_start]

/-!
## Climbing
-/

/-- No front of the segments holds more double dots than names. -/
def NeverClimbs (segments : List (List Char)) : Prop :=
  forall front, front <+: segments -> front.countP isDoubleDot ≤ front.countP isName

/-- The segments climb over some of the root, but spell it out again, with something behind. -/
def ComesBack (root segments : List (List Char)) : Prop :=
  0 < (Route.of segments).climbed ∧ exists rest, rest ≠ [] ∧
    (Route.of segments).names ++ ending segments =
      root.drop (root.length - (Route.of segments).climbed) ++ rest

theorem forall_prefix_cons_iff {α : Type} {p : List α -> Prop} {head : α} {rest : List α} :
    (forall front, front <+: head :: rest -> p front) <->
      p [] ∧ forall front, front <+: rest -> p (head :: front) := by
  constructor
  · intro h
    exact ⟨h [] List.nil_prefix, fun front hfront => h _ (List.cons_prefix_cons.mpr ⟨rfl, hfront⟩)⟩
  · rintro ⟨hnil, hcons⟩ front hfront
    rcases List.prefix_cons_iff.mp hfront with rfl | ⟨tail, rfl, htail⟩
    · exact hnil
    · exact hcons tail htail

/-- A route that has left some names climbs no further as long as the double dots do not outnumber
the names. -/
theorem climbed_foldl_eq_zero_iff (route : Route) (segments : List (List Char)) :
    (segments.foldl Route.step route).climbed = 0 <->
      route.climbed = 0 ∧ forall front, front <+: segments ->
        front.countP isDoubleDot ≤ route.names.length + front.countP isName := by
  induction segments generalizing route with
  | nil => simp
  | cons segment rest ih =>
      rw [List.foldl_cons, ih, forall_prefix_cons_iff]
      unfold Route.step
      by_cases hdouble : isDoubleDot segment = true
      · have hname : isName segment = false := by simp [isName, hdouble]
        rw [if_pos hdouble]
        by_cases hnames : route.names = []
        · rw [if_pos hnames]
          constructor
          · intro h
            cases h.1
          · intro h
            have hfront := h.2.2 [] List.nil_prefix
            simp [hdouble, hname, hnames] at hfront
        · have hlength : 0 < route.names.length := List.length_pos_iff.mpr hnames
          rw [if_neg hnames]
          simp only [List.countP_cons_of_pos hdouble, List.countP_nil, List.length_dropLast,
            List.countP_cons_of_neg (by simp [hname] : ¬ isName segment = true)]
          constructor
          · rintro ⟨hclimbed, h⟩
            refine ⟨hclimbed, by omega, fun front hfront => ?_⟩
            have hcount := h front hfront
            omega
          · rintro ⟨hclimbed, _, h⟩
            refine ⟨hclimbed, fun front hfront => ?_⟩
            have hcount := h front hfront
            omega
      · rw [if_neg hdouble]
        by_cases hsingle : isSingleDot segment = true
        · have hname : ¬ isName segment = true := by simp [isName, hsingle]
          simp only [if_pos hsingle, List.countP_cons_of_neg hdouble,
            List.countP_cons_of_neg hname, List.countP_nil, Nat.zero_le, true_and]
        · have hname : isName segment = true := by simp [isName, hdouble, hsingle]
          simp only [if_neg hsingle, List.countP_cons_of_neg hdouble,
            List.countP_cons_of_pos hname, List.countP_nil, List.length_append,
            List.length_singleton, Nat.zero_le, true_and, Nat.add_assoc, Nat.add_comm 1]

theorem neverClimbs_iff {segments : List (List Char)} :
    NeverClimbs segments <-> (Route.of segments).climbed = 0 := by
  unfold Route.of
  rw [climbed_foldl_eq_zero_iff]
  simp [NeverClimbs, Route.start]

/-- A walk of at least one segment leaves a segment behind. -/
theorem names_append_ending_ne_nil {segments : List (List Char)} (h : segments ≠ []) :
    (Route.of segments).names ++ ending segments ≠ [] := by
  rcases List.eq_nil_or_concat segments with hnil | ⟨front, last, rfl⟩
  · exact absurd hnil h
  · by_cases hname : isName last = true
    · have hparts : ¬ isDoubleDot last = true ∧ ¬ isSingleDot last = true := by
        simpa [isName] using hname
      simp [Route.of, Route.step, hparts.1, hparts.2]
    · simp [ending, hname]

/-- Where a walk from the root leads is below the root exactly if it never climbs, or comes back. -/
theorem walk_below_iff {root segments : List (List Char)} (hne : segments ≠ []) :
    (exists rest, rest ≠ [] ∧ walk root segments = root ++ rest) <->
      NeverClimbs segments ∨ ComesBack root segments := by
  have hsplit : walk root segments =
      root.take (root.length - (Route.of segments).climbed) ++
        ((Route.of segments).names ++ ending segments) := by
    rw [walk_eq, Route.on, List.append_assoc]
  have hroot : forall rest, root ++ rest =
      root.take (root.length - (Route.of segments).climbed) ++
        (root.drop (root.length - (Route.of segments).climbed) ++ rest) := by
    intro rest
    rw [← List.append_assoc, List.take_append_drop]
  simp only [hsplit, hroot, List.append_cancel_left_eq, neverClimbs_iff, ComesBack]
  rcases Nat.eq_zero_or_pos (Route.of segments).climbed with hzero | hpos
  · simp [hzero, names_append_ending_ne_nil hne]
  · simp [hpos, Nat.ne_of_gt hpos]

/-!
## Endpoints
-/

theorem slashFree_foldl_step {path segments : List (List Char)} (hpath : SlashFree path)
    (hsegments : SlashFree segments) : SlashFree (segments.foldl step path) := by
  induction segments generalizing path with
  | nil => exact hpath
  | cons segment rest ih =>
      have hsegment : '/' ∉ segment := hsegments segment List.mem_cons_self
      have hstep : SlashFree (step path segment) := by
        unfold step
        split
        · exact hpath.of_subset (List.dropLast_subset _)
        · split
          · exact hpath
          · exact hpath.append (slashFree_singleton (not_slash_mem_encode hsegment))
      exact ih hstep (hsegments.of_subset (List.subset_cons_self _ _))

theorem slashFree_walk {path segments : List (List Char)} (hpath : SlashFree path)
    (hsegments : SlashFree segments) : SlashFree (walk path segments) := by
  rw [walk_eq_foldl]
  apply (slashFree_foldl_step hpath hsegments).append
  unfold ending
  split
  · exact nofun
  · split
    · exact nofun
    · exact slashFree_singleton List.not_mem_nil

theorem slashFree_nil : SlashFree [] := nofun

theorem slashFree_pathOf {scheme : List Char} (hfile : ¬ (scheme == "file".toList) = true)
    (text : List Char) : SlashFree (pathOf scheme text) := by
  have hsegments : forall rest, SlashFree (segmentsOf scheme rest) := by
    intro rest
    unfold segmentsOf
    rw [if_neg hfile]
    exact slashFree_walk slashFree_nil (slashFree_splitBy rfl rest)
  unfold pathOf
  split
  · split
    · exact slashFree_singleton List.not_mem_nil
    · exact slashFree_nil
  · split
    · exact hsegments _
    · exact hsegments _

end Url

namespace Vault

open Projection

/-- The segments that a path is read as: slashes at its start and blanks at its end do not count,
nor do tabs and line breaks anywhere, and a query or a fragment ends it. -/
def segmentsIn (path : String) : List (List Char) :=
  Url.splitBy (Url.isSlash true)
    ((Url.cleanEnd (path.toList.dropWhile (· == '/'))).takeWhile fun c => !Url.endsPath c)

/-- The segments of the root under which all paths should lie: those of the address, and the
version of the interface. -/
def rootSegments (address : Url) : List (List Char) :=
  match address.asDirectory.path with
  | .bare _ => []
  | .segments parts => parts.dropLast ++ [['v', '1']]

/-- The path of the root, from the path of the address with a slash at its end. -/
def rootChars (address : Url) : List Char := address.asDirectory.path.chars ++ apiRoot

theorem exists_directory {address : Url} {parts : List (List Char)}
    (hpath : address.path = .segments parts) (hparts : Url.SlashFree parts) :
    exists above, Url.SlashFree above ∧
      address.asDirectory = { address with path := .segments (above ++ [[]]) } := by
  unfold Url.asDirectory
  rw [hpath]
  by_cases hlast : parts.getLast? = some []
  · rcases List.getLast?_eq_some_iff.mp hlast with ⟨above, rfl⟩
    exact ⟨above, hparts.of_subset (List.subset_append_left _ _), by simp⟩
  · exact ⟨parts, hparts, by simp [hlast]⟩

theorem not_file_of_isReachable {scheme : List Char} (h : isReachable scheme = true) :
    ¬ (scheme == "file".toList) = true := by
  intro hfile
  rw [beq_iff_eq.mp hfile] at h
  revert h
  decide

/-- A path is walked from the root, once the fixed segment has been passed. -/
theorem resolveSegments_apiRoot {base : Url} (hscheme : isReachable base.scheme = true)
    (above : List (List Char)) (text : List Char) :
    Url.resolveSegments base (above ++ [[]]) (apiRoot ++ text) =
      Url.walk (above ++ [['v', '1']]) (Url.splitBy (Url.isSlash true) text) := by
  have hsplit : Url.splitBy (Url.isSlash true) (apiRoot ++ text) =
      ['v', '1'] :: Url.splitBy (Url.isSlash true) text := rfl
  have hdouble : ¬ Url.isDoubleDot ['v', '1'] = true := by decide
  have hsingle : ¬ Url.isSingleDot ['v', '1'] = true := by decide
  have hencode : Url.encode Url.inPath ['v', '1'] = ['v', '1'] := by decide
  unfold Url.resolveSegments
  rw [if_neg (not_file_of_isReachable hscheme), isSpecial_of_isReachable hscheme, hsplit,
    List.dropLast_concat, Url.walk, if_neg hdouble, if_neg hsingle, hencode]

/-- The endpoint of a path is where the walk of its segments from the root leads to. -/
theorem exists_endpoint_walk {address : Url} {above : List (List Char)}
    (hdirectory : address.asDirectory = { address with path := .segments (above ++ [[]]) })
    (hscheme : isReachable address.scheme = true) (path : String) :
    exists url, endpoint address path = .ok url ∧
      url.path = .segments (Url.walk (above ++ [['v', '1']]) (segmentsIn path)) := by
  unfold endpoint endpointFrom
  rw [hdirectory, Url.join_apiRoot rfl]
  exact ⟨_, rfl, congrArg Url.Path.segments (resolveSegments_apiRoot hscheme above _)⟩

/-- The endpoint of a path lies below the root of the interface exactly if the segments of the path
never climb over it, or come back to it. -/
theorem endpoint_below_root_iff {text : String} {address : Url}
    (hparse : Url.parse text = .ok address) (hscheme : isReachable address.scheme = true)
    (path : String) :
    exists url, endpoint address path = .ok url ∧
      (rootChars address <+: url.path.chars <->
        Url.NeverClimbs (segmentsIn path) ∨
          Url.ComesBack (rootSegments address) (segmentsIn path)) := by
  rcases Url.exists_segments_of_parse hparse (isSpecial_of_isReachable hscheme) with ⟨rest, hpath⟩
  have hparts := Url.slashFree_pathOf (not_file_of_isReachable hscheme) rest
  rcases exists_directory hpath hparts with ⟨above, habove, hdirectory⟩
  rcases exists_endpoint_walk hdirectory hscheme path with ⟨url, hurl, hwalk⟩
  have hroot : rootSegments address = above ++ [['v', '1']] := by
    simp [rootSegments, hdirectory]
  have hchars : rootChars address = (Url.Path.segments (above ++ [['v', '1']] ++ [[]])).chars := by
    simp [rootChars, hdirectory, Url.Path.chars, apiRoot]
  have hfree : Url.SlashFree (above ++ [['v', '1']]) :=
    habove.append (Url.slashFree_singleton (by decide))
  have hsegments : Url.SlashFree (segmentsIn path) := Url.slashFree_splitBy rfl _
  refine ⟨url, hurl, ?_⟩
  rw [hroot, hchars, hwalk, Url.chars_prefix_iff hfree (Url.slashFree_walk hfree hsegments)]
  exact Url.walk_below_iff (Url.splitBy_ne_nil _ _)

/-! Below a proxy, a path may go up and down below the root; one that climbs leaves the proxy. -/

namespace Sample

def proxy : Url where
  scheme := "https".toList
  authority := some ⟨[], none, "vault.example.com".toList, none⟩
  path := .segments ["proxy".toList]
  query := none
  fragment := none

/-- An address outside of the proxy. -/
def outside : Url := { proxy with path := .segments ["admin".toList, "secret".toList] }

theorem parse_proxy : Url.parse "https://vault.example.com/proxy" = .ok proxy :=
  ok_of_toOption (by decide +kernel)

end Sample

theorem detour_stays_below_root :
    Url.parse "https://vault.example.com/proxy" = .ok Sample.proxy ∧
      isReachable Sample.proxy.scheme = true ∧
      (exists url, endpoint Sample.proxy "kv/%2e./kv/app" = .ok url ∧
        rootChars Sample.proxy <+: url.path.chars) := by
  have hnever : Url.NeverClimbs (segmentsIn "kv/%2e./kv/app") :=
    Url.neverClimbs_iff.mpr (by decide)
  rcases endpoint_below_root_iff Sample.parse_proxy (by decide) "kv/%2e./kv/app" with
    ⟨url, hurl, hbelow⟩
  exact ⟨Sample.parse_proxy, by decide, url, hurl, hbelow.mpr (.inl hnever)⟩

theorem climbing_path_leaves_proxy :
    Url.parse "https://vault.example.com/proxy" = .ok Sample.proxy ∧
      isReachable Sample.proxy.scheme = true ∧
      endpoint Sample.proxy "../../admin/secret" = .ok Sample.outside ∧
      Sample.outside.text = "https://vault.example.com/admin/secret" ∧
      ¬ rootChars Sample.proxy <+: Sample.outside.path.chars :=
  ⟨Sample.parse_proxy, by decide, ok_of_toOption (by decide +kernel), by decide +kernel,
    by decide⟩

end Vault

end SecretProjection
