import Mathlib.Data.List.Nodup
import Mathlib.Data.List.Perm.Basic
import Vix75.ProxyCore

/-! What of a request reaches the upstream service: a dict keeps every pair of a multi-valued view
exactly if no name comes twice. -/

namespace Vix75

open EffectProgram

theorem Fields.isSome_get? (fields : Fields) (name : String) :
    (fields.get? name).isSome ↔ name ∈ fields.map Prod.fst := by
  rw [get?, ← not_iff_not, Bool.not_eq_true, Option.isSome_eq_false_iff, Option.isNone_iff_eq_none,
    lookup_eq_none_iff_keys]

theorem Fields.keys_set (fields : Fields) (name value : String) :
    (fields.set name value).map Prod.fst =
      if name ∈ fields.map Prod.fst then fields.map Prod.fst
      else fields.map Prod.fst ++ [name] := by
  unfold set
  simp only [isSome_get?]
  split
  next present =>
    rw [List.map_map]
    refine List.map_congr_left fun entry _ => ?_
    by_cases same : entry.1 = name <;> simp [same]
  next absent => rw [List.map_append, List.map_singleton]

theorem Fields.set_of_absent {fields : Fields} {name : String} (value : String)
    (absent : name ∉ fields.map Prod.fst) : fields.set name value = fields ++ [(name, value)] := by
  rw [set, if_neg (mt (isSome_get? fields name).mp absent)]

theorem Fields.nodup_set {fields : Fields} (unique : (fields.map Prod.fst).Nodup)
    (name value : String) : ((fields.set name value).map Prod.fst).Nodup := by
  rw [keys_set]
  split
  next present => exact unique
  next absent =>
    refine List.nodup_append.mpr ⟨unique, List.nodup_singleton name, ?_⟩
    intro first member second last same
    rw [List.mem_singleton] at last
    exact absent (last ▸ same ▸ member)

theorem Fields.filter_set (keep : String → Bool) (fields : Fields) (name value : String) :
    (fields.set name value).filter (fun entry => keep entry.1) =
      if keep name then Fields.set (fields.filter fun entry => keep entry.1) name value
      else fields.filter fun entry => keep entry.1 := by
  by_cases present : name ∈ fields.map Prod.fst
  · have mapped : (fields.set name value).filter (fun entry => keep entry.1) =
        (fields.filter fun entry => keep entry.1).map fun entry =>
          if entry.1 = name then (name, value) else entry := by
      rw [set, if_pos ((isSome_get? fields name).mpr present), List.filter_map]
      congr 1
      refine List.filter_congr fun entry _ => ?_
      by_cases same : entry.1 = name <;> simp [same]
    rw [mapped]
    split
    next kept =>
      have still : name ∈ (fields.filter fun entry => keep entry.1).map Prod.fst := by
        obtain ⟨entry, member, rfl⟩ := List.mem_map.mp present
        exact List.mem_map_of_mem (List.mem_filter.mpr ⟨member, kept⟩)
      rw [set, if_pos ((isSome_get? _ name).mpr still)]
    next dropped =>
      refine (List.map_congr_left fun entry member => ?_).trans (List.map_id _)
      have kept : keep entry.1 = true := (List.mem_filter.mp member).2
      have other : entry.1 ≠ name := by
        rintro rfl
        exact dropped kept
      rw [if_neg other]
      rfl
  · have gone : name ∉ (fields.filter fun entry => keep entry.1).map Prod.fst := by
      intro member
      obtain ⟨entry, held, rfl⟩ := List.mem_map.mp member
      exact present (List.mem_map_of_mem (List.mem_of_mem_filter held))
    rw [set_of_absent value present, set_of_absent value gone, List.filter_append]
    split
    next kept => simp [kept]
    next dropped => simp [dropped]

section Dict

variable (pairs : List (String × String))

theorem Fields.dict_concat (name value : String) :
    Fields.dict (pairs ++ [(name, value)]) = (Fields.dict pairs).set name value := by
  rw [dict, List.foldl_append]
  rfl

theorem Fields.nodup_dict : ((Fields.dict pairs).map Prod.fst).Nodup := by
  induction pairs using List.reverseRecOn with
  | nil => exact List.nodup_nil
  | append_singleton rest pair ih =>
      rw [dict_concat]
      exact nodup_set ih pair.1 pair.2

theorem Fields.filter_dict (keep : String → Bool) :
    (Fields.dict pairs).filter (fun entry => keep entry.1) =
      Fields.dict (pairs.filter fun pair => keep pair.1) := by
  induction pairs using List.reverseRecOn with
  | nil => rfl
  | append_singleton rest pair ih =>
      rw [dict_concat, filter_set, List.filter_append, ih]
      split
      next kept =>
        have last : [pair].filter (fun pair => keep pair.1) = [pair] := by simp [kept]
        rw [last, dict_concat]
      next dropped =>
        have last : [pair].filter (fun pair => keep pair.1) = [] := by simp [dropped]
        rw [last, List.append_nil]

theorem Fields.dict_of_nodup {pairs : List (String × String)}
    (unique : (pairs.map Prod.fst).Nodup) : Fields.dict pairs = pairs := by
  induction pairs using List.reverseRecOn with
  | nil => rfl
  | append_singleton rest pair ih =>
      rw [List.map_append, List.nodup_append] at unique
      have whole : Fields.dict rest = rest := ih unique.1
      rw [dict_concat, whole]
      refine set_of_absent pair.2 fun member => ?_
      exact unique.2.2 pair.1 member pair.1 (List.mem_singleton_self _) rfl

theorem Fields.dict_perm_iff : (Fields.dict pairs).Perm pairs ↔ (pairs.map Prod.fst).Nodup := by
  constructor
  · intro same
    exact (same.map Prod.fst).nodup_iff.mp (nodup_dict pairs)
  · intro unique
    rw [dict_of_nodup unique]

end Dict

theorem Fields.foldl_del (names : List String) (entries : Fields) :
    names.foldl Fields.del entries = entries.filter fun entry => entry.1 ∉ names := by
  induction names generalizing entries with
  | nil => simp
  | cons name rest ih =>
      rw [List.foldl_cons, ih, del, List.filter_filter]
      refine List.filter_congr fun entry _ => ?_
      by_cases here : entry.1 = name <;> simp [here]

namespace Gateway

def passedOn (name : String) : Bool :=
  name.toLower ∉ hopByHop ∧ name.toLower ≠ correlationHeader.toLower

theorem lower_correlationHeader : correlationHeader.toLower = "x-correlation-id" := by
  decide +kernel

/-- The upstream request says what the request said. -/
structure Faithful (request : Request) (upstream : UpstreamRequest) : Prop where
  method : upstream.method = request.method
  content : upstream.content = request.body
  params : upstream.params.Perm request.queryParams
  correlation : (upstream.headers.filter fun entry =>
    entry.1.toLower = correlationHeader.toLower) = [(correlationHeader, request.correlationId)]
  hopByHop : ∀ entry ∈ upstream.headers, entry.1.toLower ∉ Gateway.hopByHop
  others : (upstream.headers.filter fun entry =>
    entry.1.toLower ≠ correlationHeader.toLower).Perm
      (request.headers.filter fun entry => passedOn entry.1)

section Forwarding

variable (request : Request)

theorem forwardHeaders_eq : request.forwardHeaders =
    Fields.dict (request.headers.filter fun entry => passedOn entry.1) ++
      [(correlationHeader, request.correlationId)] := by
  have dropped : (((safeHeaders request.headers).map Prod.fst).filter fun name =>
      name.toLower = correlationHeader.toLower).foldl Fields.del (safeHeaders request.headers) =
        Fields.dict (request.headers.filter fun entry => passedOn entry.1) := by
    rw [Fields.foldl_del]
    have others : (safeHeaders request.headers).filter (fun entry =>
        decide (entry.1 ∉ ((safeHeaders request.headers).map Prod.fst).filter fun name =>
          decide (name.toLower = correlationHeader.toLower))) =
        (safeHeaders request.headers).filter fun entry =>
          decide (entry.1.toLower ≠ correlationHeader.toLower) := by
      refine List.filter_congr fun entry held => ?_
      have among : entry.1 ∈ (safeHeaders request.headers).map Prod.fst :=
        List.mem_map_of_mem held
      simp only [List.mem_filter, among, true_and, decide_eq_true_eq]
    rw [others, safeHeaders,
      Fields.filter_dict _ fun name => decide (name.toLower ≠ correlationHeader.toLower),
      List.filter_filter]
    congr 1
    refine List.filter_congr fun entry _ => ?_
    simp [passedOn, and_comm]
  have absent : correlationHeader ∉
      (Fields.dict (request.headers.filter fun entry => passedOn entry.1)).map Prod.fst := by
    rw [← Fields.filter_dict]
    intro member
    obtain ⟨entry, held, same⟩ := List.mem_map.mp member
    have passed : passedOn entry.1 = true := (List.mem_filter.mp held).2
    rw [same] at passed
    exact (of_decide_eq_true passed).2 rfl
  dsimp only [Request.forwardHeaders]
  rw [dropped, Fields.set_of_absent _ absent]

theorem passedOn_of_mem {entry : String × String}
    (held : entry ∈ Fields.dict (request.headers.filter fun entry => passedOn entry.1)) :
    entry.1.toLower ∉ hopByHop ∧ entry.1.toLower ≠ correlationHeader.toLower := by
  rw [← Fields.filter_dict] at held
  exact of_decide_eq_true (p := _ ∧ _) (List.mem_filter.mp held).2

theorem forwardHeaders_correlation : (request.forwardHeaders.filter fun entry =>
    entry.1.toLower = correlationHeader.toLower) =
      [(correlationHeader, request.correlationId)] := by
  rw [forwardHeaders_eq, List.filter_append]
  have none_ : (Fields.dict (request.headers.filter fun entry => passedOn entry.1)).filter
      (fun entry => decide (entry.1.toLower = correlationHeader.toLower)) = [] := by
    refine List.filter_eq_nil_iff.mpr fun entry held => ?_
    simpa only [decide_eq_true_eq] using (passedOn_of_mem request held).2
  rw [none_]
  simp

theorem forwardHeaders_others : (request.forwardHeaders.filter fun entry =>
    entry.1.toLower ≠ correlationHeader.toLower) =
      Fields.dict (request.headers.filter fun entry => passedOn entry.1) := by
  rw [forwardHeaders_eq, List.filter_append]
  have all : (Fields.dict (request.headers.filter fun entry => passedOn entry.1)).filter
      (fun entry => decide (entry.1.toLower ≠ correlationHeader.toLower)) =
        Fields.dict (request.headers.filter fun entry => passedOn entry.1) := by
    refine List.filter_eq_self.mpr fun entry held => ?_
    exact decide_eq_true (passedOn_of_mem request held).2
  rw [all]
  simp

theorem forwardHeaders_hopByHop :
    ∀ entry ∈ request.forwardHeaders, entry.1.toLower ∉ hopByHop := by
  rw [forwardHeaders_eq]
  intro entry member
  rcases List.mem_append.mp member with held | last
  · exact (passedOn_of_mem request held).1
  · obtain rfl := List.mem_singleton.mp last
    have safe : correlationHeader.toLower ∉ hopByHop := by decide +kernel
    exact safe

theorem faithful_iff (base path : String) : Faithful request (request.upstream base path) ↔
    (request.queryParams.map Prod.fst).Nodup ∧
      ((request.headers.filter fun entry => passedOn entry.1).map Prod.fst).Nodup := by
  constructor
  · intro faithful
    refine ⟨(Fields.dict_perm_iff _).mp faithful.params, (Fields.dict_perm_iff _).mp ?_⟩
    have others := faithful.others
    rwa [Request.upstream, forwardHeaders_others] at others
  · rintro ⟨uniqueParams, uniqueHeaders⟩
    exact {
      method := rfl
      content := rfl
      params := (Fields.dict_perm_iff _).mpr uniqueParams
      correlation := forwardHeaders_correlation request
      hopByHop := forwardHeaders_hopByHop request
      others := by
        rw [Request.upstream, forwardHeaders_others]
        exact (Fields.dict_perm_iff _).mpr uniqueHeaders }

end Forwarding

theorem proxy_known {routes : Option Fields} {service base : String}
    (known : (routeMap routes).lookup service = some base) (path : String) (request : Request) :
    ∃ next, proxy routes service path request = .call (.request (request.upstream base path)) next ∧
      ∀ reply, (next reply).Uses fun _ => False := by
  rw [proxy, known]
  refine ⟨_, rfl, ?_⟩
  rintro ((_ | _ | error) | upstream) <;> trivial

namespace Sample

def search : Request where
  method := "GET"
  headers := [("x-correlation-id", "trace-1"), ("X-CORRELATION-ID", "trace-2"), ("host", "gw"),
    ("accept", "*/*")]
  queryParams := [("symbol", "V75"), ("limit", "5")]
  body := .empty

def repeated : Request where
  method := "GET"
  headers := []
  queryParams := [("timeframe", "M5"), ("timeframe", "H4")]
  body := .empty

end Sample

/-- The proxy forwards a request with all its pairs exactly if no query name comes twice and no
name of a header that is passed on does. -/
theorem proxy_faithful_iff (routes : Option Fields) (service base path : String)
    (request : Request) (known : (routeMap routes).lookup service = some base) :
    (∃ upstream next, proxy routes service path request = .call (.request upstream) next ∧
      (∀ reply, (next reply).Uses fun _ => False) ∧ Faithful request upstream) ↔
      (request.queryParams.map Prod.fst).Nodup ∧
        ((request.headers.filter fun entry => passedOn entry.1).map Prod.fst).Nodup := by
  obtain ⟨sent, whole, once⟩ := proxy_known known path request
  rw [← faithful_iff request base path, whole]
  constructor
  · rintro ⟨upstream, next, same, _, faithful⟩
    obtain ⟨same, _⟩ := Prog.call.inj same
    obtain rfl := ProxyEffect.request.inj same
    exact faithful
  · intro faithful
    exact ⟨_, sent, rfl, once, faithful⟩

theorem proxy_faithful_search : ∃ upstream next,
    proxy none "signals" "history" Sample.search = .call (.request upstream) next ∧
      (∀ reply, (next reply).Uses fun _ => False) ∧ Faithful Sample.search upstream := by
  refine (proxy_faithful_iff none "signals" "http://signal-service:8000" "history" Sample.search
    rfl).mpr ⟨by decide, ?_⟩
  simp only [passedOn, lower_correlationHeader]
  decide +kernel

/-- The second of two values of one query name is all that reaches the service. -/
theorem proxy_loses_value : ∃ upstream next,
    proxy none "signals" "history" Sample.repeated = .call (.request upstream) next ∧
      upstream.params = [("timeframe", "H4")] ∧
      ¬ upstream.params.Perm Sample.repeated.queryParams := by
  refine ⟨_, _, rfl, by decide +kernel, fun same => ?_⟩
  exact absurd same.length_eq (by decide +kernel)

end Gateway

end Vix75
