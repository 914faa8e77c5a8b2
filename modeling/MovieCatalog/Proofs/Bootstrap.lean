import MovieCatalog.Schema

/-! Bringing a database to the current version. The first row of the version table decides whether
its steps are taken, and a database that was brought there once is found as it would be left. -/
namespace MovieCatalog.Layout

/-- A database with version rows and nothing else. -/
def bare (versions : Option (List VersionCell)) : Layout := ⟨versions, [], []⟩

/-- A database at the current version. -/
def current : Layout :=
  ⟨some [.integer schemaVersion], ["works", "sources", "plans", "plan_inputs", "plan_outputs"],
    ["idx_plan_inputs_plan", "idx_plan_inputs_source", "idx_plan_outputs_plan",
      "idx_plan_outputs_work"]⟩

/-- What a number of runs of the initialisation do to a database that holds at most version rows.
If there is none or the first is below the current version, each run ends with a database at the
current version. Otherwise each finds the rows as they were, and fails over a first row that is no
integer of 32 bits. -/
structure Bootstraps (runs : Nat) : Prop where
  missing : initialiseRuns runs (bare none) = List.replicate runs (.ok (), current)
  empty : initialiseRuns runs (bare (some [])) = List.replicate runs (.ok (), current)
  older : ∀ (value : Int) (rows : List VersionCell),
    -0x80000000 ≤ value → value < schemaVersion →
      initialiseRuns runs (bare (some (.integer value :: rows))) =
        List.replicate runs (.ok (), current)
  newer : ∀ (value : Int) (rows : List VersionCell), schemaVersion ≤ value → value < 0x80000000 →
    initialiseRuns runs (bare (some (.integer value :: rows))) =
      List.replicate runs (.ok (), bare (some (.integer value :: rows)))
  outside : ∀ (value : Int) (rows : List VersionCell),
    value < -0x80000000 ∨ 0x80000000 ≤ value →
      initialiseRuns runs (bare (some (.integer value :: rows))) =
        List.replicate runs (.error (.versionRange value), bare (some (.integer value :: rows)))
  text : ∀ (value : String) (rows : List VersionCell),
    initialiseRuns runs (bare (some (.text value :: rows))) =
      List.replicate runs (.error .versionText, bare (some (.text value :: rows)))

variable {layout : Layout} {version : Int} {fault : StorageFault}

theorem version_withVersions (layout : Layout) : layout.withVersions.version = layout.version := rfl

theorem initialise_error (h : layout.version = .error fault) :
    layout.initialise = (.error fault, layout.withVersions) := by
  rw [initialise]
  simp only [version_withVersions, h]

theorem initialise_newer (h : layout.version = .ok version) (hv : schemaVersion ≤ version) :
    layout.initialise = (.ok (), layout.withVersions) := by
  rw [initialise]
  simp only [version_withVersions, h, if_pos hv]

theorem initialise_older (h : layout.version = .ok version) (hv : version < schemaVersion) :
    layout.initialise = (.ok (), (pending version).foldl migrate layout.withVersions) := by
  rw [initialise]
  simp only [version_withVersions, h, if_neg (Int.not_le.2 hv)]

/-- The last step leads to the current version, and every older version has it before it. -/
theorem pending_eq_append (h : version < schemaVersion) :
    ∃ earlier step, pending version = earlier ++ [(step, schemaVersion)] := by
  have hall : ∃ earlier step, earlier.length + 1 = schemaVersion ∧
      migrations.zip ((List.range schemaVersion).map (· + 1)) =
        earlier ++ [(step, schemaVersion)] := ⟨[], _, rfl, rfl⟩
  obtain ⟨earlier, step, hlength, hall⟩ := hall
  refine ⟨earlier.drop version.toNat, step, ?_⟩
  rw [pending, hall, List.drop_append_of_le_length (by omega)]

theorem versions_pending (h : version < schemaVersion) (layout : Layout) :
    ((pending version).foldl migrate layout).versions = some [.integer schemaVersion] := by
  obtain ⟨earlier, step, hpending⟩ := pending_eq_append h
  rw [hpending, List.foldl_append]
  rfl

theorem version_of_versions (h : layout.versions = some [.integer schemaVersion]) :
    layout.version = .ok schemaVersion := by
  rw [version, versionRows, h]
  rfl

theorem withVersions_of_versions {rows : List VersionCell} (h : layout.versions = some rows) :
    layout.withVersions = layout := by
  rw [withVersions, versionRows, h, Option.getD_some, ← h]

/-- A second run repeats the result of the first and changes nothing. -/
theorem initialise_initialise (layout : Layout) :
    layout.initialise.2.initialise = layout.initialise := by
  cases h : layout.version with
  | error fault =>
    rw [initialise_error h]
    exact initialise_error h
  | ok version =>
    by_cases hv : schemaVersion ≤ version
    · rw [initialise_newer h hv]
      exact initialise_newer h hv
    · have hversions := versions_pending (Int.not_le.1 hv) layout.withVersions
      rw [initialise_older h (Int.not_le.1 hv),
        initialise_newer (version_of_versions hversions) (Int.le_refl _),
        withVersions_of_versions hversions]

theorem initialiseRuns_eq (runs : Nat) (layout : Layout) :
    initialiseRuns runs layout = List.replicate runs layout.initialise := by
  induction runs generalizing layout with
  | zero => rfl
  | succ runs ih => rw [initialiseRuns, ih, initialise_initialise, List.replicate_succ]

/-- No older version has a step behind it. -/
theorem toNat_of_older (h : version < schemaVersion) : version.toNat = 0 := by
  change version < 1 at h
  omega

theorem pending_foldl_bare (h : version < schemaVersion) (rows : List VersionCell) :
    (pending version).foldl migrate (bare (some rows)) = current := by
  rw [pending, toNat_of_older h]
  rfl

theorem initialise_bare_older {versions : Option (List VersionCell)}
    (h : (bare versions).version = .ok version) (hv : version < schemaVersion) :
    (bare versions).initialise = (.ok (), current) := by
  rw [initialise_older h hv]
  exact congrArg _ (pending_foldl_bare hv _)

theorem version_integer {value : Int} (hlow : -0x80000000 ≤ value) (hhigh : value < 0x80000000)
    (rows : List VersionCell) : (bare (some (.integer value :: rows))).version = .ok value :=
  if_pos ⟨hlow, hhigh⟩

theorem version_outside {value : Int} (h : value < -0x80000000 ∨ 0x80000000 ≤ value)
    (rows : List VersionCell) :
    (bare (some (.integer value :: rows))).version = .error (.versionRange value) :=
  if_neg fun hin => h.elim (Int.not_lt.2 hin.1) (Int.not_le.2 hin.2)

theorem bootstraps (runs : Nat) : Bootstraps runs := by
  constructor
  case missing => rw [initialiseRuns_eq, initialise_bare_older rfl Int.one_pos]
  case empty => rw [initialiseRuns_eq, initialise_bare_older rfl Int.one_pos]
  case older =>
    intro value rows hlow hv
    have hhigh : value < 0x80000000 := by
      change value < 1 at hv
      omega
    rw [initialiseRuns_eq, initialise_bare_older (version_integer hlow hhigh rows) hv]
  case newer =>
    intro value rows hv hhigh
    have hlow : -0x80000000 ≤ value := by
      change 1 ≤ value at hv
      omega
    rw [initialiseRuns_eq, initialise_newer (version_integer hlow hhigh rows) hv]
    rfl
  case outside =>
    intro value rows hout
    rw [initialiseRuns_eq, initialise_error (version_outside hout rows)]
    rfl
  case text =>
    intro value rows
    rw [initialiseRuns_eq, initialise_error rfl]
    rfl

end MovieCatalog.Layout
