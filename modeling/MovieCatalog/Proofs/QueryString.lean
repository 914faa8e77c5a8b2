import MovieCatalog.Proofs.PageToken
import MovieCatalog.Proofs.SpelledQueries

/-! Query strings with one more pair at their end. -/
namespace MovieCatalog

namespace ListParams

variable {params params' : ListParams} {pairs : List (String × String)} {query : String}

/-- Pairs behind others are taken in after them. -/
theorem addAll_append (params : ListParams) (pairs more : List (String × String)) :
    params.addAll (pairs ++ more) = (params.addAll pairs).bind fun next => next.addAll more := by
  induction pairs generalizing params with
  | nil => rfl
  | cons pair pairs ih =>
    rw [List.cons_append, addAll, addAll]
    cases params.add pair with
    | error fault => rfl
    | ok next => exact ih next

/-- Only a pair of that name sets the page token. -/
theorem pageToken_add {pair : String × String} (h : params.add pair = .ok params')
    (hname : pair.1 ≠ "pageToken") : params'.pageToken = params.pageToken := by
  unfold add at h
  split at h
  · cases hs : assign "sourceUuid" params.source _ <;> rw [hs] at h <;> cases h
    rfl
  · cases hw : assign "workUuid" params.work _ <;> rw [hw] at h <;> cases h
    rfl
  · cases hn : assignNumber "pageSize" params.pageSize _ <;> rw [hn] at h <;> cases h
    rfl
  · exact absurd rfl hname
  · cases h
    rfl

theorem pageToken_addAll (h : params.addAll pairs = .ok params')
    (hnames : ∀ pair ∈ pairs, pair.1 ≠ "pageToken") : params'.pageToken = params.pageToken := by
  induction pairs generalizing params with
  | nil =>
    rw [addAll] at h
    cases h
    rfl
  | cons pair pairs ih =>
    rw [addAll] at h
    split at h
    · rename_i next hadd
      rw [ih h fun p hp => hnames p (List.mem_cons_of_mem _ hp)]
      exact pageToken_add hadd (hnames pair List.mem_cons_self)
    · cases h

/-- A token behind a query string without one is taken in, and nothing else changes. -/
theorem ofQuery_pageToken (h : ofQuery query = .ok params)
    (hnames : ∀ pair ∈ QueryString.pairs query, pair.1 ≠ "pageToken") (id : Uuid) :
    ofQuery (query ++ "&pageToken=" ++ PageToken.encode id) =
      .ok { params with pageToken := some (PageToken.encode id) } := by
  have hname : QueryString.Spells False "pageToken".toList "pageToken".toList := by
    have hall : ("pageToken".toList.all fun c => decide (c ∉ ['&', '=', '+', '%'])) = true := by
      decide
    exact QueryString.spells_self fun c hc => of_decide_eq_true (List.all_eq_true.1 hall c hc)
  have hvalue : QueryString.Spells True (PageToken.encode id).toList
      (PageToken.encode id).toList := by
    rw [PageToken.encode, String.toList_ofList]
    apply QueryString.spells_value
    intro c hc
    have hplain := Base64.plain_encode _ c hc
    simp [hplain.2]
  have hsegment : QueryString.Segment [("pageToken", PageToken.encode id)]
      ("pageToken=" ++ PageToken.encode id).toList := by
    rw [String.toList_append]
    exact .pair hname hvalue
  have hnone : params.pageToken = none := pageToken_addAll h hnames
  have hlead : query ++ "&pageToken=" ++ PageToken.encode id =
      query ++ "&" ++ ("pageToken=" ++ PageToken.encode id) := by
    have hand : "&pageToken=" = "&" ++ "pageToken=" := by decide
    simp only [hand, String.append_assoc]
  rw [ofQuery] at h
  rw [ofQuery, hlead, hsegment.pairs_append query, addAll_append, h, Except.bind, addAll, add,
    hnone]
  rfl

end ListParams
end MovieCatalog
