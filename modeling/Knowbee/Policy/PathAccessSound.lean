import Knowbee.Policy.PathAccess

/-!
# What an admitted path leads to

An access is sound when its path, followed the way the operating system follows
it, ends under an allowed root and under no denied one, through no link below
the allowed root where links are not to be followed.  The policy fails this for
three kinds of requests only: a denied root that does not resolve is skipped, a
link is looked for at the last component only, and the place of a new file is
compared without following a link that leads to nothing
(`path_access_sound_iff`).
-/

namespace Knowbee

open FileTree List

variable (tree : FileTree String) (policy : PathAccessSettings) (request : PathAccessRequest)

def PathAccessRequest.path : FilePath String := parsePath request.requestedPath

/-- The place a root names, whether or not something is there yet. -/
def rootLocation (root : String) : Option (FileLocation String) :=
  let trimmed := trim root
  if trimmed.isEmpty then none else (tree.resolve (parsePath trimmed)).location

/-- A component of the path is a link that is found in the given directory. -/
def LinkIn (path : FilePath String) (directory : FileLocation String) : Prop :=
  ∃ before name after target, path.components = before ++ .normal name :: after ∧
    tree.walk tree.linkLimit (tree.origin path) before = .found directory ∧
    tree.entry (directory ++ [name]) = some (.link target)

structure Confined (target : FileLocation String) : Prop where
  undenied : ∀ denied ∈ policy.deniedPaths, ∀ location, rootLocation tree denied = some location →
    ¬location <+: target
  allowed : ∃ root ∈ policy.allowedPaths request.operation, ∃ location,
    rootLocation tree root = some location ∧ location <+: target ∧
      (policy.followSymlinks = false → ∀ directory, LinkIn tree request.path directory →
        ¬location <+: directory)

/-- An access that is allowed is confined, wherever it leads. -/
def PathAccessSound : Prop :=
  (authorizePathAccess tree policy request).allowed = true → ∀ target,
    (tree.resolve request.path).location = some target → Confined tree policy request target

/-- The request passes the checks of the policy, with the given candidate. -/
structure Admits (candidate : FileLocation String) : Prop where
  nonempty : request.requestedPath.isEmpty = false
  visible : (!policy.allowHiddenFiles && containsHiddenComponent request.path) = false
  direct : (!policy.followSymlinks && containsSymlinkComponent tree request.path) = false
  found : canonicalPathForOperation tree request.operation request.path = some candidate
  undenied : isUnderAny tree candidate policy.deniedPaths = false
  allowed : isUnderAny tree candidate (policy.allowedPaths request.operation) = true

/-- A denied root does not resolve, and its place is the target or above it. -/
def SkipsDeniedRoot (target : FileLocation String) : Prop :=
  ∃ denied ∈ policy.deniedPaths, canonicalRoot tree denied = none ∧ ∃ location,
    rootLocation tree denied = some location ∧ location <+: target

/-- A component before the last one, or the last one with a slash or a dot
behind it, is a link that is found in the given directory. -/
def EarlierLinkIn (path : FilePath String) (directory : FileLocation String) : Prop :=
  ∃ before name after target, path.components = before ++ .normal name :: after ∧
    (after ≠ [] ∨ path.directory = true) ∧
    tree.walk tree.linkLimit (tree.origin path) before = .found directory ∧
    tree.entry (directory ++ [name]) = some (.link target)

def Dangles (path : FilePath String) : Prop :=
  tree.exists' path = false ∧ ∃ before name directory target,
    path.components = before ++ [.normal name] ∧
    tree.walk tree.linkLimit (tree.origin path) before = .found directory ∧
    tree.entry (directory ++ [name]) = some (.link target)

/-- A request that the policy admits and that is of one of the three kinds. -/
inductive Astray (target : FileLocation String) : Prop where
  | skipped : SkipsDeniedRoot tree policy target → Astray target
  | linked : policy.followSymlinks = false →
      (∀ root ∈ policy.allowedPaths request.operation, ∀ location,
        rootLocation tree root = some location → location <+: target →
        ∃ directory, EarlierLinkIn tree request.path directory ∧ location <+: directory) →
      Astray target
  | dangling : request.operation = .write → Dangles tree request.path →
      (isUnderAny tree target policy.deniedPaths = true ∨
        ∀ root ∈ policy.allowedPaths request.operation, ∀ location,
          rootLocation tree root = some location → ¬location <+: target) →
      Astray target

variable {tree policy request} {path : FilePath String} {candidate target : FileLocation String}

lemma allowed_iff : (authorizePathAccess tree policy request).allowed = true ↔
    ∃ candidate, Admits tree policy request candidate := by
  have fails reasonCode : (PathAccessDecision.denied reasonCode).allowed = false := rfl
  simp only [authorizePathAccess]
  constructor
  · intro allowed
    split_ifs at allowed with empty hidden linked
    · cases allowed
    · cases allowed
    · cases allowed
    · cases found : canonicalPathForOperation tree request.operation
          (parsePath request.requestedPath) with
      | none => simp [found, fails] at allowed
      | some candidate =>
        simp only [found] at allowed
        split_ifs at allowed with denied outside
        · cases allowed
        · cases allowed
        · exact ⟨candidate, Bool.eq_false_iff.mpr empty, Bool.eq_false_iff.mpr hidden,
            Bool.eq_false_iff.mpr linked, found, Bool.eq_false_iff.mpr denied,
            by simpa using outside⟩
  · rintro ⟨candidate, nonempty, visible, direct, found, undenied, allowed⟩
    simp only [PathAccessRequest.path] at visible direct found
    simp [nonempty, visible, direct, found, undenied, allowed, PathAccessDecision.allow]

lemma canonicalize_eq_some {location : FileLocation String} :
    tree.canonicalize path = some location ↔ tree.resolve path = .found location := by
  unfold canonicalize
  cases tree.resolve path <;> simp

lemma rootLocation_of_canonicalRoot {root : String} {location : FileLocation String}
    (resolves : canonicalRoot tree root = some location) :
    rootLocation tree root = some location := by
  unfold canonicalRoot at resolves
  unfold rootLocation
  simp only at resolves ⊢
  split_ifs at resolves ⊢ with blank
  rw [canonicalize_eq_some.mp resolves]
  rfl

lemma isUnderAny_iff {roots : List String} : isUnderAny tree candidate roots = true ↔
    ∃ root ∈ roots, ∃ location, canonicalRoot tree root = some location ∧
      location <+: candidate := by
  simp only [isUnderAny, any_eq_true, mem_filterMap, Bool.or_eq_true, decide_eq_true_eq,
    isPrefixOf_iff_prefix]
  constructor
  · rintro ⟨location, ⟨root, member, resolves⟩, rfl | below⟩
    · exact ⟨root, member, _, resolves, prefix_rfl⟩
    · exact ⟨root, member, location, resolves, below⟩
  · rintro ⟨root, member, location, resolves, below⟩
    exact ⟨location, ⟨root, member, resolves⟩, .inr below⟩

variable {directory : FileLocation String}

lemma resolve_name {name : String} (named : path.fileName = some name)
    (reached : tree.walk tree.linkLimit (tree.origin path) path.components.dropLast = .found directory) :
    ∃ left, tree.resolve path = tree.walk left directory
      (.normal name :: if path.directory then [.curDir] else []) := by
  have split := FilePath.components_of_fileName named
  have nonempty : path.isEmpty = false := by
    rw [FilePath.isEmpty, split]
    simp
  obtain ⟨left, onward⟩ := walk_append reached
  refine ⟨left, ?_⟩
  rw [resolve, if_neg (by simp [nonempty]), FilePath.steps]
  nth_rewrite 1 [split]
  rw [append_assoc, onward]
  rfl

/-- The place of a new file is where its path leads, unless that is a link. -/
lemma missing_candidate {name : String} (named : path.fileName = some name)
    (absent : tree.exists' path = false)
    (reached : tree.walk tree.linkLimit (tree.origin path) path.components.dropLast = .found directory)
    (leads : (tree.resolve path).location = some target) (firm : ¬Dangles tree path) :
    target = directory ++ [name] := by
  have unfound location : tree.resolve path ≠ .found location := by
    intro found
    simp [exists', canonicalize_eq_some.mpr found] at absent
  obtain ⟨left, resolved⟩ := resolve_name named reached
  rw [resolved] at leads unfound
  by_cases inside : tree.entry directory = some .directory
  · cases there : tree.entry (directory ++ [name]) with
    | none =>
      rw [walk_name inside there] at leads
      cases slash : path.directory <;>
        · simp only [slash, Landing.location, lexically, Bool.false_eq_true, if_true, if_false,
            Option.some.injEq] at leads
          exact leads.symm
    | some entry =>
      cases entry with
      | link other =>
        exact absurd ⟨absent, _, name, directory, other, FilePath.components_of_fileName named,
          reached, there⟩ firm
      | directory =>
        have found : tree.walk left directory
            (.normal name :: if path.directory then [.curDir] else []) =
              .found (directory ++ [name]) := by
          cases left <;> cases path.directory <;> simp [walk, walkWith, inside, there]
        exact absurd found (unfound _)
      | file =>
        cases slash : path.directory with
        | false =>
          have found : tree.walk left directory
              (.normal name :: if path.directory then [.curDir] else []) =
                .found (directory ++ [name]) := by
            cases left <;> simp [walk, walkWith, inside, there, slash]
          exact absurd found (unfound _)
        | true =>
          cases left <;> simp [walk, walkWith, inside, there, slash, Landing.location] at leads
  · cases left <;> simp [walk, walkWith, inside, Landing.location] at leads

/-- The candidate that the policy compares is where the path leads, unless a
file is written through a link that leads to nothing. -/
lemma candidate_eq_target {operation : PathOperation}
    (found : canonicalPathForOperation tree operation path = some candidate)
    (leads : (tree.resolve path).location = some target)
    (firm : operation = .write → ¬Dangles tree path) : candidate = target := by
  have existing (resolves : tree.canonicalize path = some candidate) : candidate = target := by
    rw [canonicalize_eq_some.mp resolves] at leads
    exact Option.some.inj leads
  cases operation with
  | read => exact existing found
  | delete => exact existing found
  | list => exact existing found
  | metadata => exact existing found
  | write =>
    simp only [canonicalPathForOperation] at found
    split_ifs at found with there
    · exact existing found
    · simp only [bind, Option.bind_eq_some_iff, pure, Option.some.injEq] at found
      obtain ⟨parent, above, directory, resolves, name, named, rfl⟩ := found
      have absent : tree.exists' path = false := by simpa using there
      have reached : tree.walk tree.linkLimit (tree.origin path) path.components.dropLast =
          .found directory := by
        have short : parent = ⟨path.absolute, path.components.dropLast, false⟩ := by
          simp only [FilePath.parent] at above
          split_ifs at above
          exact (Option.some.inj above).symm
        subst short
        have walked := canonicalize_eq_some.mp resolves
        unfold resolve at walked
        split_ifs at walked
        simpa [FilePath.steps, origin] using walked
      exact (missing_candidate named absent reached leads (firm rfl)).symm

lemma earlierLinkIn_of_direct (direct : containsSymlinkComponent tree path = false)
    (link : LinkIn tree path directory) : EarlierLinkIn tree path directory := by
  obtain ⟨before, name, after, target, split, reached, there⟩ := link
  refine ⟨before, name, after, target, split, ?_, reached, there⟩
  by_contra last
  obtain ⟨rfl, plain⟩ : after = [] ∧ path.directory = false := by simpa using last
  have named : path.fileName = some name := by simp [FilePath.fileName, split]
  have dropped : path.components.dropLast = before := by simp [split]
  simp [containsSymlinkComponent, symlinkMetadata, plain, named, dropped, reached, there] at direct

/-- For every file tree, policy and request: the access is sound exactly when
the policy does not admit it while it goes astray in one of three ways. -/
theorem path_access_sound_iff (tree : FileTree String) (policy : PathAccessSettings)
    (request : PathAccessRequest) :
    PathAccessSound tree policy request ↔ ∀ candidate target,
      Admits tree policy request candidate →
        (tree.resolve request.path).location = some target →
          ¬Astray tree policy request target := by
  constructor
  · intro sound candidate target admits leads astray
    have confined := sound (allowed_iff.mpr ⟨candidate, admits⟩) target leads
    obtain ⟨root, member, location, place, below, unlinked⟩ := confined.allowed
    cases astray with
    | skipped skips =>
      obtain ⟨denied, listed, -, spot, here, above⟩ := skips
      exact confined.undenied denied listed spot here above
    | linked follows links =>
      obtain ⟨directory, ⟨before, name, after, aim, split, -, reached, there⟩, inside⟩ :=
        links root member location place below
      exact unlinked follows directory ⟨before, name, after, aim, split, reached, there⟩ inside
    | dangling write dangles outside =>
      rcases outside with denied | unrooted
      · obtain ⟨other, listed, spot, resolves, above⟩ := isUnderAny_iff.mp denied
        exact confined.undenied other listed spot (rootLocation_of_canonicalRoot resolves) above
      · exact unrooted root member location place below
  · intro straight allowed target leads
    obtain ⟨candidate, admits⟩ := allowed_iff.mp allowed
    have firm := straight candidate target admits leads
    -- A link that leads to nothing is compared with the roots by its own place
    -- only; everything else by the place it leads to.
    have checked : isUnderAny tree target policy.deniedPaths = false ∧
        ∃ root ∈ policy.allowedPaths request.operation, ∃ location,
          rootLocation tree root = some location ∧ location <+: target := by
      by_cases dangles : request.operation = .write ∧ Dangles tree request.path
      · have inside := fun outside => firm (.dangling dangles.1 dangles.2 outside)
        refine ⟨Bool.eq_false_iff.mpr fun denied => inside (.inl denied), ?_⟩
        by_contra none
        exact inside (.inr fun root member location place below =>
          none ⟨root, member, location, place, below⟩)
      · obtain rfl := candidate_eq_target admits.found leads
          fun write dangling => dangles ⟨write, dangling⟩
        obtain ⟨root, member, location, resolves, below⟩ := isUnderAny_iff.mp admits.allowed
        exact ⟨admits.undenied, root, member, location, rootLocation_of_canonicalRoot resolves,
          below⟩
    refine ⟨?_, ?_⟩
    · intro denied listed location place above
      cases resolves : canonicalRoot tree denied with
      | none => exact firm (.skipped ⟨denied, listed, resolves, location, place, above⟩)
      | some spot =>
        cases place.symm.trans (rootLocation_of_canonicalRoot resolves)
        have found := isUnderAny_iff.mpr ⟨denied, listed, location, resolves, above⟩
        simp [checked.1] at found
    · by_cases follows : policy.followSymlinks = true
      · obtain ⟨root, member, location, place, below⟩ := checked.2
        exact ⟨root, member, location, place, below, by simp [follows]⟩
      · have unfollowed : policy.followSymlinks = false := by simpa using follows
        have direct : containsSymlinkComponent tree request.path = false := by
          simpa [unfollowed] using admits.direct
        by_contra none
        refine firm (.linked unfollowed fun root member location place below => ?_)
        by_contra unlinked
        exact none ⟨root, member, location, place, below, fun _ directory link inside =>
          unlinked ⟨directory, earlierLinkIn_of_direct direct link, inside⟩⟩

/-- An allowed directory with a link to a directory beside it and a link that
leads out of it to nothing. -/
def sampleTree : FileTree String :=
  .ofEntries
    [([], .directory), (["data"], .directory), (["data", "real"], .directory),
      (["data", "real", "note"], .file), (["data", "link"], .link (parsePath "real")),
      (["data", "out"], .link (parsePath "/outside/new")), (["outside"], .directory)]
    40 (by decide) (by decide)

def samplePolicy (followSymlinks : Bool) : PathAccessSettings where
  allowedReadPaths := ["/data"]
  allowedWritePaths := ["/data"]
  deniedPaths := ["/data/secret"]
  allowHiddenFiles := false
  followSymlinks := followSymlinks

/-- A denied file that is not there yet is written; a file is read through a link
in the middle of its path though links are not to be followed; and a file is
written outside every allowed root through a link that leads to nothing. -/
theorem astray_accesses_allowed :
    ¬PathAccessSound sampleTree (samplePolicy false) ⟨.write, "/data/secret"⟩ ∧
      ¬PathAccessSound sampleTree (samplePolicy false) ⟨.read, "/data/link/note"⟩ ∧
      ¬PathAccessSound sampleTree (samplePolicy true) ⟨.write, "/data/out"⟩ := by
  refine ⟨fun sound => ?_, fun sound => ?_, fun sound => ?_⟩
  · have confined := sound (by decide) ["data", "secret"] (by decide)
    exact confined.undenied "/data/secret" (by decide) ["data", "secret"] (by decide)
      prefix_rfl
  · have confined := sound (by decide +kernel) ["data", "real", "note"] (by decide +kernel)
    obtain ⟨root, member, location, place, -, unlinked⟩ := confined.allowed
    cases mem_singleton.mp member
    have spot : rootLocation sampleTree "/data" = some ["data"] := by decide
    cases place.symm.trans spot
    exact unlinked rfl ["data"] ⟨[.normal "data"], "link", [.normal "note"], parsePath "real",
      by decide, by decide, by decide⟩ prefix_rfl
  · have confined := sound (by decide) ["outside", "new"] (by decide +kernel)
    obtain ⟨root, member, location, place, below, -⟩ := confined.allowed
    cases mem_singleton.mp member
    have spot : rootLocation sampleTree "/data" = some ["data"] := by decide
    cases place.symm.trans spot
    exact absurd below (by decide)

end Knowbee
