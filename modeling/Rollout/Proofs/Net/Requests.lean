import Rollout.Net.Request
import Rollout.Proofs.Labels
import Rollout.Proofs.Model.Objects
import Rollout.Proofs.Net.Form

/-!
What calls are put to a server as. The place that a call is about stands in the path of its request,
and the rest in the query and the body. There is a request unless the call leaves something open or
its texts make no address. Main statement: no two calls are put as the same request.
-/
namespace Rollout
open Text

namespace Uri
variable {u : Uri}

/-- An address that is a path with a query or without one, and whose path does not end early. -/
structure IsLocal (u : Uri) : Prop where
  scheme : u.scheme = none
  authority : u.authority = []
  head : u.path.head? = some '/'
  no_question : '?' ∉ u.path
  no_hash : '#' ∉ u.path
  in_query : ∀ q ∈ u.query, ∀ c ∈ q, isQueryChar c = true

theorem IsLocal.render_eq (h : u.IsLocal) : u.render = u.path ++ u.query.elim [] ('?' :: ·) := by
  unfold render
  rw [h.scheme, h.authority]
  cases u.query <;> rfl

theorem IsLocal.eq_mk (h : u.IsLocal) : u = { path := u.path, query := u.query } := by
  obtain ⟨scheme, authority, path, query⟩ := u
  obtain rfl : scheme = none := h.scheme
  obtain rfl : authority = [] := h.authority
  rfl

theorem IsLocal.splitPath_render (h : u.IsLocal) :
    splitPath u.render = if u.path.all isPathChar then some (u.path, u.query) else none := by
  have hpath : ∀ c ∈ u.path, (c != '#') = true := by
    intro c hc
    rw [bne_iff_ne]
    rintro rfl
    exact h.no_hash hc
  rw [h.render_eq]
  cases hquery : u.query with
  | none =>
    have hwhole : u.path.takeWhile (· != '#') = u.path := List.takeWhile_eq_self_iff.2 hpath
    have hcut : cutAt? '?' u.path = none := cutAt?_eq_none_iff.2 h.no_question
    simp [splitPath, hwhole, hcut]
  | some q =>
    have hq : ∀ c ∈ q, isQueryChar c = true := h.in_query q hquery
    -- neither the path nor the query has a hash, so nothing is cut off
    have hwhole : (u.path ++ '?' :: q).takeWhile (· != '#') = u.path ++ '?' :: q := by
      rw [List.takeWhile_eq_self_iff]
      intro c hc
      rcases List.mem_append.1 hc with hc | hc
      · exact hpath c hc
      · rcases List.mem_cons.1 hc with rfl | hc
        · rfl
        · rw [bne_iff_ne]
          rintro rfl
          exact absurd (hq _ hc) (by decide +kernel)
    have hcut : cutAt? '?' (u.path ++ '?' :: q) = some (u.path, q) := cutAt?_append h.no_question q
    have hall : q.all isQueryChar = true := List.all_eq_true.2 hq
    simp [splitPath, hwhole, hcut, hall]

theorem parse?_of_head {cs : List Char} (h : cs.head? = some '/') :
    parse? cs =
      if maxLength < (encodeUtf8 cs).length then none
      else (splitPath cs).map fun (path, query) => { path, query } := by
  obtain ⟨rest, rfl⟩ : ∃ rest, cs = '/' :: rest := by
    cases cs with
    | nil => exact nomatch h
    | cons c rest => exact ⟨rest, by rw [Option.some.inj h]⟩
  have hstar : ('/' :: rest == ['*']) = false := by simp
  have hslash : (('/' :: rest).head? == some '/') = true := by simp
  unfold parse?
  rw [hstar, hslash]
  simp only [List.isEmpty_cons, Bool.false_or, decide_eq_true_eq, Bool.false_eq_true,
    if_false, if_true]

theorem IsLocal.parse?_render_eq_some_iff (h : u.IsLocal) {v : Uri} :
    parse? u.render = some v ↔
      (u.path.all isPathChar = true ∧ (encodeUtf8 u.render).length ≤ maxLength) ∧ v = u := by
  have hhead : u.render.head? = some '/' := by
    rw [h.render_eq, List.head?_append, h.head]
    rfl
  rw [parse?_of_head hhead, h.splitPath_render]
  by_cases hlong : maxLength < (encodeUtf8 u.render).length
  · rw [if_pos hlong]
    constructor
    · exact fun hnone => nomatch hnone
    · exact fun hfine => absurd hfine.1.2 (Nat.not_le.2 hlong)
  · rw [if_neg hlong]
    by_cases hall : u.path.all isPathChar = true
    · rw [if_pos hall, Option.map_some]
      dsimp only
      rw [← h.eq_mk, Option.some.injEq, eq_comm]
      exact (and_iff_right ⟨hall, Nat.not_lt.1 hlong⟩).symm
    · rw [if_neg hall]
      constructor
      · exact fun hnone => nomatch hnone
      · exact fun hfine => absurd hfine.1.1 hall

end Uri

/-- What a call says in the path of its request: the namespace, and the name if there is one. -/
def Call.said : Call → List String
  | get _ namespaceName name => [namespaceName, name]
  | list _ namespaceName _ | create _ namespaceName _ => [namespaceName]

/-- An object is asked for by its name, and one is only created by an author whose name is short. -/
def Call.IsSettled (author : String) : Call → Prop
  | get _ _ name => name ≠ ""
  | list .. => True
  | create .. => author.utf8ByteSize ≤ 128

instance (author : String) : (call : Call) → Decidable (call.IsSettled author)
  | .get _ _ name => inferInstanceAs (Decidable (name ≠ ""))
  | .list .. => inferInstanceAs (Decidable True)
  | .create .. => inferInstanceAs (Decidable (author.utf8ByteSize ≤ 128))

/-- Nothing that the call says ends the path early, or stands for something else where it is read
again. -/
structure Call.IsLegible (call : Call) : Prop where
  path : ∀ s ∈ call.said, '?' ∉ s.toList ∧ '#' ∉ s.toList
  name : ∀ kind namespaceName name, call = .get kind namespaceName name → '/' ∉ name.toList
  labels : ∀ kind namespaceName labels, call = .list kind namespaceName labels →
    Selector.IsSelectable labels
  object : ∀ kind namespaceName object, call = .create kind namespaceName object →
    (kind.metadata object).IsKept

namespace Request

def collectionRoot (kind : ObjectKind) : List Char :=
  ((if kind.kind.group = "" then "/api/" else "/apis/") ++ kind.kind.apiVersion ++
    "/namespaces/").toList

theorem collection_eq (kind : ObjectKind) (namespaceName : String) :
    collection kind namespaceName =
      collectionRoot kind ++ (namespaceName.toList ++ '/' :: kind.kind.plural.toList) := by
  have hslash : "/".toList = ['/'] := rfl
  unfold collection collectionRoot Kind.path
  rw [String.toList_append, String.toList_append, String.toList_append, hslash, List.append_assoc,
    List.append_assoc, List.singleton_append]

theorem isPathChar_of_collectionRoot (kind : ObjectKind) :
    (collectionRoot kind).head? = some '/' ∧ (collectionRoot kind).all Uri.isPathChar = true ∧
      ('/' :: kind.kind.plural.toList).all Uri.isPathChar = true := by
  cases kind <;> decide +kernel

variable {kind kind' : ObjectKind} {namespaceName namespaceName' : String}

theorem head?_collection (kind : ObjectKind) (namespaceName : String) :
    (collection kind namespaceName).head? = some '/' := by
  rw [collection_eq, List.head?_append, (isPathChar_of_collectionRoot kind).1]
  rfl

theorem all_isPathChar_collection (kind : ObjectKind) (namespaceName : String) :
    (collection kind namespaceName).all Uri.isPathChar =
      namespaceName.toList.all Uri.isPathChar := by
  obtain ⟨-, hroot, hplural⟩ := isPathChar_of_collectionRoot kind
  rw [collection_eq, List.all_append, List.all_append, hroot, hplural, Bool.true_and, Bool.and_true]

theorem not_mem_collection {c : Char} (hc : Uri.isPathChar c = false)
    (h : c ∉ namespaceName.toList) : c ∉ collection kind namespaceName := by
  obtain ⟨-, hroot, hplural⟩ := isPathChar_of_collectionRoot kind
  have hnot {cs : List Char} (hcs : cs.all Uri.isPathChar = true) : c ∉ cs := by
    intro hmem
    exact nomatch (List.all_eq_true.1 hcs c hmem).symm.trans hc
  rw [collection_eq, List.mem_append, List.mem_append]
  rintro (hmem | hmem | hmem)
  · exact hnot hroot hmem
  · exact h hmem
  · exact hnot hplural hmem

theorem question_not_mem_collection (kind : ObjectKind) (h : '?' ∉ namespaceName.toList) :
    '?' ∉ collection kind namespaceName := by
  have hquestion : Uri.isPathChar '?' = false := by decide +kernel
  exact not_mem_collection hquestion h

theorem hash_not_mem_collection (kind : ObjectKind) (h : '#' ∉ namespaceName.toList) :
    '#' ∉ collection kind namespaceName := by
  have hhash : Uri.isPathChar '#' = false := by decide +kernel
  exact not_mem_collection hhash h

theorem plural_injective (h : kind.kind.plural = kind'.kind.plural) : kind = kind' := by
  cases kind <;> cases kind' <;> first | rfl | exact absurd h (by decide)

theorem slash_not_mem_plural (kind : ObjectKind) : '/' ∉ kind.kind.plural.toList := by
  cases kind <;> decide +kernel

theorem collection_injective (h : collection kind namespaceName = collection kind' namespaceName') :
    kind = kind' ∧ namespaceName = namespaceName' := by
  rw [collection_eq, collection_eq, ← List.append_assoc, ← List.append_assoc] at h
  -- what stands behind the last slash is different for each kind
  obtain ⟨hfront, hplural⟩ :=
    eq_of_cut_at_last (slash_not_mem_plural kind) (slash_not_mem_plural kind') h
  obtain rfl := plural_injective (String.toList_injective hplural)
  exact ⟨rfl, String.toList_injective (List.append_cancel_left hfront)⟩

def listQuery (labels : Dict String) : List Char :=
  (Selector.ofLabels? labels).elim [] (Form.entry "labelSelector")

/-- What the request for a call is, if there is one. -/
def intended (author : String) : Call → Request
  | .get kind namespaceName name =>
    { method := .get
      target := { path := collection kind namespaceName ++ '/' :: name.toList } }
  | .list kind namespaceName labels =>
    { method := .get
      target := { path := collection kind namespaceName, query := some (listQuery labels) } }
  | .create kind namespaceName object =>
    { method := .post
      target :=
        { path := collection kind namespaceName
          query := some (Form.entry "fieldManager" author) }
      body := some (kind.codec.encode object) }

variable {labels : Dict String} {author author' : String} {call call' : Call} {request : Request}

theorem ofCall_list (author : String) (kind : ObjectKind) (namespaceName : String)
    (labels : Dict String) :
    ofCall author (.list kind namespaceName labels) =
      toTarget .get (collection kind namespaceName ++ '?' :: listQuery labels) none := by
  unfold ofCall listQuery Selector.ofLabels?
  dsimp only
  split <;> rfl

theorem field?_listQuery (labels : Dict String) :
    Form.field? "labelSelector" (listQuery labels) = Selector.ofLabels? labels := by
  unfold listQuery
  cases Selector.ofLabels? labels with
  | none => exact Form.field?_nil _
  | some selector => exact Form.field?_entry _ selector

theorem isQueryChar_of_mem_listQuery {c : Char} (h : c ∈ listQuery labels) :
    Uri.isQueryChar c = true := by
  unfold listQuery at h
  cases hselector : Selector.ofLabels? labels with
  | none => simp [hselector] at h
  | some selector =>
    rw [hselector] at h
    exact Form.isQueryChar_of_mem_entry h

theorem isLocal_collection {query : List Char}
    (h : '?' ∉ namespaceName.toList ∧ '#' ∉ namespaceName.toList)
    (hquery : ∀ c ∈ query, Uri.isQueryChar c = true) :
    Uri.IsLocal { path := collection kind namespaceName, query := some query } where
  scheme := rfl
  authority := rfl
  head := head?_collection ..
  no_question := by simpa using question_not_mem_collection kind h.1
  no_hash := by simpa using hash_not_mem_collection kind h.2
  in_query _ hq := Option.some.inj hq ▸ hquery

theorem isLocal_get {name : String}
    (h : '?' ∉ namespaceName.toList ∧ '#' ∉ namespaceName.toList)
    (hname : '?' ∉ name.toList ∧ '#' ∉ name.toList) :
    Uri.IsLocal { path := collection kind namespaceName ++ '/' :: name.toList } where
  scheme := rfl
  authority := rfl
  head := by
    rw [List.head?_append, head?_collection]
    rfl
  no_question := by simp [question_not_mem_collection kind h.1, hname.1]
  no_hash := by simp [hash_not_mem_collection kind h.2, hname.2]
  in_query := nofun

theorem isLocal_intended (author : String)
    (h : ∀ s ∈ call.said, '?' ∉ s.toList ∧ '#' ∉ s.toList) :
    (intended author call).target.IsLocal := by
  cases call with
  | get kind namespaceName name =>
    exact isLocal_get (h namespaceName (List.mem_cons_self ..))
      (h name (List.mem_cons_of_mem _ (List.mem_cons_self ..)))
  | list kind namespaceName labels =>
    exact isLocal_collection (h namespaceName (List.mem_cons_self ..))
      fun _ => isQueryChar_of_mem_listQuery
  | create kind namespaceName object =>
    exact isLocal_collection (h namespaceName (List.mem_cons_self ..))
      fun _ => Form.isQueryChar_of_mem_entry

theorem all_isPathChar_intended (author : String) (call : Call) :
    (intended author call).target.path.all Uri.isPathChar =
      call.said.all (·.toList.all Uri.isPathChar) := by
  cases call with
  | get kind namespaceName name =>
    have hslash : Uri.isPathChar '/' = true := by decide +kernel
    simp [intended, Call.said, all_isPathChar_collection, hslash]
  | list kind namespaceName labels => simp [intended, Call.said, all_isPathChar_collection]
  | create kind namespaceName object => simp [intended, Call.said, all_isPathChar_collection]

theorem toTarget_render_eq_ok_iff {method : Method} {u : Uri} {body : Option Json}
    (h : u.IsLocal) :
    toTarget method u.render body = .ok request ↔
      (u.path.all Uri.isPathChar = true ∧ (encodeUtf8 u.render).length ≤ Uri.maxLength) ∧
        request = { method, target := u, body } := by
  rw [toTarget]
  split
  · next v hv =>
    obtain ⟨hfits, rfl⟩ := h.parse?_render_eq_some_iff.1 hv
    rw [Except.ok.injEq, eq_comm]
    exact (and_iff_right hfits).symm
  · next hnone =>
    constructor
    · exact fun herror => nomatch herror
    · rintro ⟨hfits, -⟩
      exact nomatch hnone.symm.trans (h.parse?_render_eq_some_iff.2 ⟨hfits, rfl⟩)

theorem ofCall_eq_toTarget (h : call.IsSettled author) :
    ofCall author call = toTarget (intended author call).method
      (intended author call).target.render (intended author call).body := by
  cases call with
  | get kind namespaceName name =>
    rw [ofCall, if_neg h]
    simp [intended, Uri.render]
  | list kind namespaceName labels =>
    rw [ofCall_list]
    simp [intended, Uri.render]
  | create kind namespaceName object =>
    have hauthor : ¬ maxAuthorLength < author.utf8ByteSize := Nat.not_lt.2 h
    rw [ofCall, if_neg hauthor]
    simp [intended, Uri.render]

theorem ofCall_of_not_isSettled (h : ¬ call.IsSettled author) :
    ofCall author call = .error (.badRequest (match call with
      | .get .. => "an object without a name is asked for"
      | _ => "the name of the author is too long")) := by
  cases call with
  | get kind namespaceName name => exact if_pos (not_not.1 h)
  | list kind namespaceName labels => exact absurd trivial h
  | create kind namespaceName object => exact if_pos (Nat.not_le.1 h)

/-- There is a request for what leaves nothing open and makes an address that is not too long, and
it is the intended one. -/
theorem ofCall_eq_ok_iff (h : ∀ s ∈ call.said, '?' ∉ s.toList ∧ '#' ∉ s.toList) :
    ofCall author call = .ok request ↔
      call.IsSettled author ∧
        (call.said.all (·.toList.all Uri.isPathChar) = true ∧
          (encodeUtf8 (intended author call).target.render).length ≤ Uri.maxLength) ∧
        request = intended author call := by
  by_cases hsettled : call.IsSettled author
  · rw [ofCall_eq_toTarget hsettled, toTarget_render_eq_ok_iff (isLocal_intended author h),
      all_isPathChar_intended]
    exact (and_iff_right hsettled).symm
  · constructor
    · exact fun hok => nomatch (ofCall_of_not_isSettled hsettled).symm.trans hok
    · exact fun hfine => absurd hfine.1 hsettled

example : (intended "operator" (.get .secret "kube-system" "prod-etcd")).target.render =
    "/api/v1/namespaces/kube-system/secrets/prod-etcd".toList := by
  decide +kernel

theorem eq_of_listQuery_eq {labels' : Dict String} (h : Selector.IsSelectable labels)
    (h' : Selector.IsSelectable labels') (heq : listQuery labels = listQuery labels') :
    labels = labels' := by
  apply Selector.eq_of_labelSelector_eq h h'
  rw [← Selector.getD_ofLabels?, ← field?_listQuery, heq, field?_listQuery,
    Selector.getD_ofLabels?]

theorem eq_of_intended_eq (h : call.IsLegible) (h' : call'.IsLegible)
    (heq : intended author call = intended author' call') : call = call' := by
  have hmethod := congrArg Request.method heq
  have hpath := congrArg (·.target.path) heq
  have hquery := congrArg (·.target.query) heq
  have hbody := congrArg Request.body heq
  cases call with
  | get kind namespaceName name =>
    cases call' with
    | get kind' namespaceName' name' =>
      -- a name has no slash, so it is what stands behind the last one
      obtain ⟨hcollection, hname⟩ :=
        eq_of_cut_at_last (h.name _ _ _ rfl) (h'.name _ _ _ rfl) hpath
      obtain ⟨rfl, rfl⟩ := collection_injective hcollection
      rw [String.toList_injective hname]
    | list kind' namespaceName' labels' => exact nomatch hquery
    | create kind' namespaceName' object' => exact nomatch hmethod
  | list kind namespaceName labels =>
    cases call' with
    | get kind' namespaceName' name' => exact nomatch hquery
    | list kind' namespaceName' labels' =>
      dsimp only [intended] at hpath
      obtain ⟨rfl, rfl⟩ := collection_injective hpath
      rw [eq_of_listQuery_eq (h.labels _ _ _ rfl) (h'.labels _ _ _ rfl) (Option.some.inj hquery)]
    | create kind' namespaceName' object' => exact nomatch hmethod
  | create kind namespaceName object =>
    cases call' with
    | get kind' namespaceName' name' => exact nomatch hmethod
    | list kind' namespaceName' labels' => exact nomatch hmethod
    | create kind' namespaceName' object' =>
      dsimp only [intended] at hpath
      obtain ⟨rfl, rfl⟩ := collection_injective hpath
      have hkeeps := ObjectKind.keeps (h.object _ _ _ rfl)
      have hkeeps' := ObjectKind.keeps (h'.object _ _ _ rfl)
      have hdecode : some object = some object' := by
        rw [← hkeeps.decode_encode, Option.some.inj hbody, hkeeps'.decode_encode]
      rw [Option.some.inj hdecode]

/-- Whoever reads a request can tell which call it was made for, and who creates an object. -/
theorem eq_of_ofCall_eq (h : call.IsLegible) (h' : call'.IsLegible)
    (hok : ofCall author call = .ok request) (hok' : ofCall author' call' = .ok request) :
    call = call' ∧
      ∀ kind namespaceName object,
        call = .create kind namespaceName object → author = author' := by
  obtain ⟨-, -, hrequest⟩ := (ofCall_eq_ok_iff h.path).1 hok
  obtain ⟨-, -, hrequest'⟩ := (ofCall_eq_ok_iff h'.path).1 hok'
  have heq : intended author call = intended author' call' := hrequest.symm.trans hrequest'
  obtain rfl := eq_of_intended_eq h h' heq
  refine ⟨rfl, ?_⟩
  rintro kind namespaceName object rfl
  have hquery := Option.some.inj (congrArg (·.target.query) heq)
  have hauthor : some author = some author' := by
    rw [← Form.field?_entry "fieldManager" author, hquery, Form.field?_entry]
  exact Option.some.inj hauthor

end Request
end Rollout
