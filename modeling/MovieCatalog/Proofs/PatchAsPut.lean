import MovieCatalog.Proofs.ProperRows
import MovieCatalog.Proofs.Routes

/-! Patches as puts. To patch a row with a submission is to put the submission in full: what it
leaves out is taken from the row. The checks, the answers, the rows and the links of every plan
agree. -/
namespace MovieCatalog

/-- A submission in full, against a row. Of a row of its kind, the stored values are filled in; for
another row it must have every field itself. -/
inductive Submission.InFull (submission : Submission) (row : Entry) : Submission → Prop where
  | filled {entity : Entity} (same : row.tag = submission.kind.tag)
      (stored : Entity.ofStored submission.kind.table row.tag row.body = .ok entity) :
      InFull submission row (submission.fill entity)
  | sent (other : row.tag ≠ submission.kind.tag) (full : submission.IsFull) :
      InFull submission row submission

/-- Answers with the catalogs after them that agree: the same answer, the same rows in every table,
and the same links of every plan. -/
structure Agree (one other : Response × Catalog) : Prop where
  answer : one.1 = other.1
  entries : ∀ table, one.2.store.entries table = other.2.store.entries table
  links : ∀ side plan, one.2.store.linksOf side plan = other.2.store.linksOf side plan

variable {c : Catalog} {s : Store} {table : Table} {side : Side} {kind : Kind} {text path : String}
  {query : Option String} {body : Bytes} {id : Uuid} {row : Entry} {entity entity' : Entity}
  {patch : Patch} {submission : Submission} {targets : Side → Option Uuid}

theorem Agree.refl (answered : Response × Catalog) : Agree answered answered :=
  ⟨rfl, fun _ => rfl, fun _ _ => rfl⟩

namespace Store

/-- What a patch leads to is there when all that its plan leads to is: the rest was there before. -/
theorem hasTargets_iff (h : s.Sound) (hf : s.Follows id entity targets) :
    s.HasTargets targets ↔ s.HasTargets entity.targets := by
  cases hends : entity.ends? with
  | none =>
    have hsame : targets = entity.targets := by
      funext side
      rw [hf.none_of_none hends, Entity.targets_eq_none hends]
    rw [hsame]
  | some ends =>
    constructor
    · intro ht side target htarget
      rw [Entity.targets_eq_some hends, Option.mem_some] at htarget
      subst htarget
      rcases hf.some_or_kept ends hends side with hgiven | ⟨-, old, oldEnds, hold, holdEnds, hkept⟩
      · exact ht side _ hgiven
      · rw [← hkept]
        exact (h.linked id old oldEnds hold holdEnds side).2
    · intro ht side target htarget
      refine ht side target ?_
      rcases hf.some_or_kept ends hends side with hgiven | ⟨hleft, -⟩
      · rw [Entity.targets_eq_some hends, ← hgiven]
        exact htarget
      · rw [hleft] at htarget
        cases htarget

/-- The sides that a patch leaves alone have the links that a put would make. -/
theorem linksOf_rewritten_follows (h : s.Sound) (hf : s.Follows id entity targets) (side : Side)
    (plan : String) : (s.rewritten id entity targets).linksOf side plan =
      (s.rewritten id entity entity.targets).linksOf side plan := by
  by_cases hplan : plan = id.text
  · subst hplan
    cases hends : entity.ends? with
    | none =>
      rw [linksOf_rewritten_of_none (hf.none_of_none hends side),
        linksOf_rewritten_of_none (Entity.targets_eq_none hends side)]
    | some ends =>
      rw [linksOf_rewritten_of_some (Entity.targets_eq_some hends side)]
      rcases hf.some_or_kept ends hends side with
        hgiven | ⟨hleft, old, oldEnds, hold, holdEnds, hkept⟩
      · rw [linksOf_rewritten_of_some hgiven]
      · rw [linksOf_rewritten_of_none hleft, (h.linked id old oldEnds hold holdEnds side).1, hkept]
  · rw [linksOf_rewritten_of_ne hplan, linksOf_rewritten_of_ne hplan]

end Store

/-- A field that was sent gives its side a target. -/
theorem Field.patchId_isSome {field : Field String} {name : String} {given : Option Uuid}
    (h : field.IsSent) (hgiven : field.patchId name = .ok given) : given.isSome = true := by
  cases field with
  | absent => exact absurd rfl h
  | null => cases hgiven
  | value content =>
    change (parseId name content).map some = .ok given at hgiven
    cases hid : parseId name content with
    | error error =>
      rw [hid] at hgiven
      cases hgiven
    | ok id =>
      rw [hid] at hgiven
      cases hgiven
      rfl

namespace Submission

theorem planChange_isSome {source work : Field String} {start stop : Field Int32}
    {change : PlanChange} (hsource : source.IsSent) (hwork : work.IsSent)
    (h : planChange source work start stop = .ok change) (side : Side) :
    (change.target? side).isSome = true := by
  simp only [planChange, bind_eq_ok] at h
  obtain ⟨source', hsource', work', hwork', h⟩ := h
  cases h
  cases side with
  | input => exact Field.patchId_isSome hsource hsource'
  | output => exact Field.patchId_isSome hwork hwork'

/-- A full submission gives both targets of a plan. -/
theorem target_isSome_of_isFull (h : submission.IsFull) (hpatch : submission.patch = .ok patch)
    {change : PlanChange} (hchange : patch.planChange? = some change) (side : Side) :
    (change.target? side).isSome = true := by
  cases submission <;> simp only [Submission.patch, bind_eq_ok] at hpatch
  case direct source work =>
    obtain ⟨change', hchange', hpatch⟩ := hpatch
    cases hpatch
    cases hchange
    exact planChange_isSome h.1 h.2 hchange' side
  case chapterRange source work start stop =>
    obtain ⟨change', hchange', hpatch⟩ := hpatch
    cases hpatch
    cases hchange
    exact planChange_isSome h.1 h.2.1 hchange' side
  case disc =>
    obtain ⟨_, -, _, -, _, -, hpatch⟩ := hpatch
    cases hpatch
    cases hchange
  all_goals
    obtain ⟨_, -, hpatch⟩ := hpatch
    cases hpatch
    cases hchange

theorem targets_of_isFull (h : submission.IsFull) (hpatch : submission.patch = .ok patch)
    (happly : patch.apply id entity = .ok entity') : patch.targets = entity'.targets := by
  funext side
  rcases Patch.ends_of_apply happly with ⟨hchange, hends⟩ | ⟨change, ends, hchange, -, hends⟩
  · rw [Entity.targets_eq_none hends, Patch.targets, hchange, Option.bind_none]
  · rw [Entity.targets_eq_some hends, Patch.targets, hchange, Option.bind_some]
    rcases change.target_ends ends side with hgiven | ⟨hleft, -⟩
    · exact hgiven
    · have hsome := target_isSome_of_isFull h hpatch hchange side
      rw [hleft] at hsome
      cases hsome

theorem exists_wellFormed (kind : Kind) :
    ∃ entity : Entity, entity.WellFormed ∧ entity.kind = kind := by
  have hnamed : (⟨.ofNat 1, .ofNat 1⟩ : Endpoints).Named := by constructor <;> decide
  cases kind with
  | movie => exact ⟨.movie ⟨"a", none, none⟩, by simp [Entity.WellFormed], rfl⟩
  | edition => exact ⟨.edition "a", by simp [Entity.WellFormed], rfl⟩
  | file => exact ⟨.file "a", by simp [Entity.WellFormed], rfl⟩
  | disc => exact ⟨.disc ⟨"a", "a", false⟩, by simp [Entity.WellFormed], rfl⟩
  | direct => exact ⟨.direct ⟨.ofNat 1, .ofNat 1⟩, hnamed, rfl⟩
  | chapterRange => exact ⟨.chapterRange ⟨.ofNat 1, .ofNat 1⟩ ⟨none, none⟩, hnamed, rfl⟩

/-- The checks of a full submission are the same for a patch and for a put. -/
theorem entity_of_isFull (h : submission.IsFull) (id : Uuid) : ∃ entity : Entity,
    entity.kind = submission.kind ∧
      submission.entity = submission.patch >>= fun patch => patch.apply id entity := by
  obtain ⟨entity, hentity, hkind⟩ := exists_wellFormed submission.kind
  refine ⟨entity, hkind, ?_⟩
  rw [← entity_fill hentity hkind, fill_of_isFull h]

end Submission

namespace Catalog

theorem outcome_updated (h : c.store.Proper) (hheld : c.store.Holds table id entity) :
    c.store.outcome table id.text = .updated := by
  obtain ⟨revision, hf⟩ := hheld.2
  have hrevision : 1 ≤ revision := h.revised _ _ _ hf
  rw [Store.outcome, hf]
  simp only
  rw [Outcome.ofRevision, if_neg (by omega)]

/-- The answer to a patch, with the catalog after it. -/
def patchAnswer (c : Catalog) (id : Uuid) (patch : Patch) : Response × Catalog :=
  let result := (patchEntity id patch).run.run c
  (Response.ofResult Response.ofPatch result.1, result.2)

/-- The answer to a put, with the catalog after it. -/
def putAnswer (c : Catalog) (id : Uuid) (entity : Entity) : Response × Catalog :=
  let result := (putEntity id entity).run.run c
  (Response.ofResult Response.ofOutcome result.1, result.2)

/-- A patch and the put of the entity that it makes agree. When the patch gives both targets, there
is no difference at all. -/
theorem patch_put_agree (hp : c.poisoned = false) (h : c.store.Proper)
    (hheld : c.store.Holds patch.kind.table id entity) (hid : id.isNil = false)
    (happly : patch.apply id entity = .ok entity') :
    Agree (c.patchAnswer id patch) (c.putAnswer id entity') ∧
      (patch.targets = entity'.targets → c.patchAnswer id patch = c.putAnswer id entity') := by
  obtain ⟨hkind, hkind'⟩ := Patch.kind_of_apply happly
  have hheld' : c.store.Holds entity'.kind.table id entity := by
    rw [hkind']
    exact hheld
  have hfollows : c.store.Follows id entity' patch.targets := by
    refine Store.follows_patch ?_ happly
    rw [hheld.1]
    exact hheld
  have htargets := Store.hasTargets_iff h.sound hfollows
  have htag : ∀ row, c.store.find? patch.kind.table id.text = some row →
      row.tag = patch.kind.tag := by
    intro row hf
    rw [hheld.tag_eq hf, hkind]
  have hpatch := patchEntity_result hp h.sound id patch
  have hput := putEntity_result hp hid entity'
  unfold patchAnswer putAnswer
  generalize (patchEntity id patch).run.run c = patched at hpatch ⊢
  generalize (putEntity id entity').run.run c = put at hput ⊢
  -- The row is there and of the right kind, so both are stored or both lead to what is not there.
  cases hpatch with
  | absent none =>
    obtain ⟨revision, hf⟩ := hheld.2
    rw [none] at hf
    cases hf
  | conflict found other => exact absurd (htag _ found) other
  | dangles held same missing =>
    cases hput with
    | conflict found other =>
      rw [hkind'] at found other
      exact absurd (htag _ found) other
    | dangles => exact ⟨.refl _, fun _ => rfl⟩
    | stored accepts targets => exact absurd (htargets.2 targets) missing
  | stored held applied accepts targets =>
    have hsame := hheld.unique held
    subst hsame
    rw [happly] at applied
    cases applied
    cases hput with
    | conflict found other =>
      rw [hkind'] at found other
      exact absurd (htag _ found) other
    | dangles accepts' missing => exact absurd (htargets.1 targets) missing
    | stored accepts' targets' =>
      rw [outcome_updated h hheld']
      refine ⟨⟨rfl, ?_, ?_⟩, ?_⟩
      · intro table
        simp only [Store.entries_rewritten]
      · exact Store.linksOf_rewritten_follows h.sound hfollows
      · intro he
        rw [he]
        rfl

/-- On a row of another kind a patch and a put conflict alike. -/
theorem patch_put_conflict (hp : c.poisoned = false) (h : c.store.Sound)
    (hf : c.store.find? patch.kind.table id.text = some row) (hother : row.tag ≠ patch.kind.tag)
    (hkind : entity.kind = patch.kind) : c.patchAnswer id patch = c.putAnswer id entity := by
  have hput : (putEntity id entity).run.run c =
      (.error (.kindConflict patch.kind.table id), c) := by
    rw [← hkind] at hf hother ⊢
    exact putEntity_conflict hp (h.holds_of_find? hf).1 hf hother
  have hpatch := patchEntity_result hp h id patch
  unfold patchAnswer putAnswer
  rw [hput]
  generalize (patchEntity id patch).run.run c = patched at hpatch ⊢
  cases hpatch with
  | absent none =>
    rw [none] at hf
    cases hf
  | conflict => rfl
  | dangles held same => exact absurd ((held.tag_eq hf).trans (by rw [same])) hother
  | stored held applied =>
    exact absurd ((held.tag_eq hf).trans (by rw [(Patch.kind_of_apply applied).1])) hother

/-- The answer to a request to patch with a submission, with the catalog after it. -/
def patchSubmitted (c : Catalog) (id : Uuid) (submission : Submission) : Response × Catalog :=
  match submission.patch with
  | .ok patch => c.patchAnswer id patch
  | .error error => (.ofError error, c)

/-- The answer to a request to put a submission, with the catalog after it. -/
def putSubmitted (c : Catalog) (id : Uuid) (submission : Submission) : Response × Catalog :=
  match submission.entity with
  | .ok entity => c.putAnswer id entity
  | .error error => (.ofError error, c)

theorem respond_patch_run (c : Catalog) (hroute : Route.ofPath? path = some (.submission kind text))
    (hid : pathId text = .ok id) (hbody : readBody kind body = .ok submission) :
    (respond ⟨.patch, path, query, body⟩).run c = c.patchSubmitted id submission := by
  have hrespond : respond ⟨.patch, path, query, body⟩ = answerPatch kind text body := by
    rw [respond, hroute]
  have harguments : patchArguments kind text body =
      submission.patch.bind fun patch => .ok (id, patch) := by
    rw [patchArguments, hid, hbody]
    rfl
  rw [hrespond, answerPatch_run, harguments, patchSubmitted]
  cases submission.patch <;> rfl

theorem respond_put_run (c : Catalog) (hroute : Route.ofPath? path = some (.submission kind text))
    (hid : pathId text = .ok id) (hbody : readBody kind body = .ok submission) :
    (respond ⟨.put, path, query, body⟩).run c = c.putSubmitted id submission := by
  have hrespond : respond ⟨.put, path, query, body⟩ = answerPut kind text body := by
    rw [respond, hroute]
  have harguments : putArguments kind text body =
      submission.entity.bind fun entity => .ok (id, entity) := by
    rw [putArguments, hid, hbody]
    rfl
  rw [hrespond, answerPut_run, harguments, putSubmitted]
  cases submission.entity <;> rfl

/-- Patching a row of the kind of a submission is putting the submission filled in from the row. -/
theorem patch_put_filled (hp : c.poisoned = false) (h : c.store.Proper)
    (hheld : c.store.Holds submission.kind.table id entity) (hkind : entity.kind = submission.kind)
    (hid : id.isNil = false) :
    Agree (c.patchSubmitted id submission) (c.putSubmitted id (submission.fill entity)) ∧
      (submission.IsFull → c.patchSubmitted id submission = c.putSubmitted id submission) := by
  have hfill := Submission.entity_fill (h.wellFormed _ _ _ hheld) hkind id
  unfold patchSubmitted putSubmitted
  cases hpatch : submission.patch with
  | error error =>
    rw [hpatch] at hfill
    have hfill' : (submission.fill entity).entity = .error error := hfill
    rw [hfill']
    refine ⟨.refl _, ?_⟩
    intro hfull
    rw [← Submission.fill_of_isFull hfull entity, hfill']
  | ok patch =>
    have hkind' : entity.kind = patch.kind :=
      hkind.trans (Submission.kind_of_patch hpatch).symm
    obtain ⟨entity', happly⟩ := Patch.exists_apply hkind' id
    rw [hpatch] at hfill
    have hfill' : (submission.fill entity).entity = .ok entity' := hfill.trans happly
    rw [← Submission.kind_of_patch hpatch] at hheld
    obtain ⟨hagree, hequal⟩ := patch_put_agree hp h hheld hid happly
    rw [hfill']
    refine ⟨hagree, ?_⟩
    intro hfull
    rw [← Submission.fill_of_isFull hfull entity, hfill']
    exact hequal (Submission.targets_of_isFull hfull hpatch happly)

/-- Over a row of another kind, a full submission fails alike as a patch and as a put: by its first
check that fails, or else by the conflict. -/
theorem patch_put_other (hp : c.poisoned = false) (h : c.store.Sound)
    (hf : c.store.find? submission.kind.table id.text = some row)
    (hother : row.tag ≠ submission.kind.tag) (hfull : submission.IsFull) :
    c.patchSubmitted id submission = c.putSubmitted id submission := by
  obtain ⟨entity, hkind, hchecks⟩ := submission.entity_of_isFull hfull id
  unfold patchSubmitted putSubmitted
  cases hpatch : submission.patch with
  | error error =>
    have hfails : submission.entity = .error error := by
      rw [hchecks, hpatch]
      rfl
    rw [hfails]
  | ok patch =>
    have hkind' := Submission.kind_of_patch hpatch
    obtain ⟨entity', happly⟩ := Patch.exists_apply (hkind.trans hkind'.symm) id
    have hpasses : submission.entity = .ok entity' := by
      rw [hchecks, hpatch]
      exact happly
    rw [hpasses]
    rw [← hkind'] at hf hother
    exact patch_put_conflict hp h hf hother (Patch.kind_of_apply happly).2

/-- A request to patch a row that is there is a request to put the submission in full: answers,
rows and links agree, refusals included. For a submission that leaves nothing out there is no
difference at all between patching and putting. -/
theorem patch_is_put_in_full (requests : List Request) {path path' text text' : String}
    {query query' : Option String} {body body' : Bytes} {kind : Kind} {id : Uuid} {row : Entry}
    {submission full : Submission}
    (hroute : Route.ofPath? path = some (.submission kind text)) (hid : pathId text = .ok id)
    (hroute' : Route.ofPath? path' = some (.submission kind text')) (hid' : pathId text' = .ok id)
    (hrow : row ∈ (served requests).store.entries kind.table) (hrowId : row.id = id.text)
    (hbody : readBody kind body = .ok submission) (hfull : submission.InFull row full)
    (hbody' : readBody kind body' = .ok full) :
    Agree ((respond ⟨.patch, path, query, body⟩).run (served requests))
        ((respond ⟨.put, path', query', body'⟩).run (served requests)) ∧
      (submission.IsFull → (respond ⟨.patch, path, query, body⟩).run (served requests) =
        (respond ⟨.put, path', query', body⟩).run (served requests)) := by
  have hp := poisoned_served requests
  have h := proper_served requests
  have hkind := readBody_kind hbody
  rw [respond_patch_run _ hroute hid hbody, respond_put_run _ hroute' hid' hbody',
    respond_put_run _ hroute' hid' hbody]
  have hf := Store.find?_of_mem (h.sound.distinct _) hrow
  rw [hrowId, ← hkind] at hf
  cases hfull with
  | filled same stored =>
    obtain ⟨hnil, entity, hheld, htag, hstored⟩ := h.sound.holds_of_find? hf
    rw [stored] at hstored
    cases hstored
    exact patch_put_filled hp h hheld (Kind.eq_of_tag hheld.1 (htag.symm.trans same)) hnil
  | sent other sent =>
    have hequal := patch_put_other hp h.sound hf other sent
    rw [hequal]
    exact ⟨.refl _, fun _ => rfl⟩

/-- A movie without numbers gets one; the other is put as `null`. -/
theorem patch_is_put_of_movie :
    let body (members : List (String × Json)) : Bytes := Utf8.ofText (Json.object members).render
    let path := "/works/00000000-0000-0000-0000-000000000001/movie"
    let c := served [⟨.put, path, none, body [("title", .text "a")]⟩]
    Agree ((respond ⟨.patch, path, none, body [("tmdbId", .integer 2)]⟩).run c)
      ((respond ⟨.put, path, none,
        body [("title", .text "a"), ("releaseYear", .null), ("tmdbId", .integer 2)]⟩).run c) := by
  intro body path c
  let movie : Entity := .movie ⟨"a", none, none⟩
  let row : Entry := ⟨(Uuid.ofNat 1).text, movie.kind.tag, movie.body, 1⟩
  have hpath : path = "/" ++ Kind.movie.table.name ++ "/" ++ (Uuid.ofNat 1).text ++ "/" ++
      Kind.movie.segment := by decide
  have hroute : Route.ofPath? path = some (.submission .movie (Uuid.ofNat 1).text) :=
    hpath ▸ Route.ofPath?_submission .movie (Uuid.ofNat 1).slash_not_mem_text
  have hid : pathId (Uuid.ofNat 1).text = .ok (.ofNat 1) := parseId_text rfl
  have hrow : row ∈ c.store.entries .works := by decide +kernel
  have hbody : readBody .movie (Utf8.ofText (Json.object [("tmdbId", .integer 2)]).render) =
      .ok (.movie .absent .absent (.value 2)) := by decide +kernel
  have hbody' : readBody .movie (Utf8.ofText (Json.object [("title", .text "a"),
        ("releaseYear", .null), ("tmdbId", .integer 2)]).render) =
      .ok (.movie (.value "a") .null (.value 2)) := by decide +kernel
  exact (patch_is_put_in_full _ hroute hid hroute hid hrow rfl hbody
    (.filled rfl (Entity.ofStored_body movie)) hbody').1

end Catalog
end MovieCatalog
