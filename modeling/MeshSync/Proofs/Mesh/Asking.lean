import MeshSync.Mesh.Client
import MeshSync.Proofs.Decimal
import MeshSync.Proofs.Url.Form
import MeshSync.Proofs.Url.Referring

/-! # What blocking queries ask for

    A blocking query is a request for the path of its subject, and its options
    travel as pairs behind a question mark.  `asks_what_is_told` says that
    nothing is lost on the way: whatever characters the hash and the datacenter
    are made of, the request reads as the subject and the options that it was
    made of, so queries with other options are other requests. -/

namespace MeshSync

namespace Url

/-- What a request asks for tells its path and its query. -/
theorem parts_of_target {u v : Url} {a b : List Char} (hu : ∀ c ∈ u.path.text, c ≠ '?')
    (hv : ∀ c ∈ v.path.text, c ≠ '?') (ha : u.query = some a) (hb : v.query = some b)
    (h : u.target = v.target) : u.path.text = v.path.text ∧ a = b := by
  rw [target, target, ha, hb] at h
  have h := congrArg (Text.cut (· = '?')) (String.ofList_injective h)
  rw [Text.cut_append (fun c hc => decide_eq_false (hu c hc)) (decide_eq_true rfl),
    Text.cut_append (fun c hc => decide_eq_false (hv c hc)) (decide_eq_true rfl)] at h
  obtain ⟨hpath, hquery⟩ := Prod.mk.inj h
  exact ⟨hpath, Option.some.inj hquery⟩

end Url

namespace Mesh

open Url (PlainPath Unreserved)

/-! ## Subjects -/

namespace Subject

/-- The path of the endpoint that has what is asked for. -/
def path : Subject → String
  | agentService id => (Endpoint.agentService id).path
  | caRoots => Endpoint.caRoots.path
  | caLeaf service => (Endpoint.caLeaf service).path
  | instances service => (Endpoint.instances service).path

/-- What stands before the name in that path. -/
def place : Subject → String
  | agentService _ => "/v1/agent/service/"
  | caRoots => "/v1/agent/connect/ca/roots"
  | caLeaf _ => "/v1/agent/connect/ca/leaf/"
  | instances _ => "/v1/health/connect/"

/-- The name of what is asked for; empty where there is only one. -/
def name : Subject → String
  | agentService id => id
  | caRoots => ""
  | caLeaf service => service
  | instances service => service

/-- A name that means nothing to a URL. -/
structure Plain (s : Subject) : Prop where
  unreserved : Unreserved s.name
  notHere : s.name ≠ "."
  notAbove : s.name ≠ ".."

theorem path_eq (s : Subject) : s.path = s.place ++ s.name := by
  cases s with
  | agentService id => rfl
  | caRoots => rfl
  | caLeaf service => rfl
  | instances service => rfl

/-- The path of a subject with a plain name is a plain path. -/
theorem Plain.exists_path {s : Subject} (h : s.Plain) :
    ∃ cs, s.path.toList = '/' :: cs ∧ PlainPath cs := by
  have hname : PlainPath s.name.toList :=
    (Url.PlainSegment.of_unreserved h.unreserved h.notHere h.notAbove).plainPath
  cases s with
  | agentService id =>
      have hplace : PlainPath "v1/agent/service".toList := by decide
      exact ⟨_, String.toList_append, hplace.append hname⟩
  | caRoots => exact ⟨"v1/agent/connect/ca/roots".toList, rfl, by decide⟩
  | caLeaf service =>
      have hplace : PlainPath "v1/agent/connect/ca/leaf".toList := by decide
      exact ⟨_, String.toList_append, hplace.append hname⟩
  | instances service =>
      have hplace : PlainPath "v1/health/connect".toList := by decide
      exact ⟨_, String.toList_append, hplace.append hname⟩

end Subject

/-! ## Options -/

namespace Query

/-- What a query says besides its subject, in the order in which it is said. -/
def told (q : Query) : List (String × String) :=
  (if q.index ≠ 0 then [("index", toString q.index)] else []) ++
    (if q.hash ≠ "" then [("hash", q.hash)] else []) ++
    (if q.wait ≠ 0 then [("wait", toString q.wait ++ "ms")] else []) ++
    (if q.datacenter.getD "" ≠ "" then [("dc", q.datacenter.getD "")] else [])

/-- Queries that say the same of their options. -/
structure Alike (q q' : Query) : Prop where
  index : q.index = q'.index
  hash : q.hash = q'.hash
  wait : q.wait = q'.wait
  datacenter : q.datacenter.getD "" = q'.datacenter.getD ""

theorem toString_eq_text (n : Nat) : toString n = Decimal.text n := by
  rw [← String.toList_inj, Decimal.toList_toString, Decimal.text, String.toList_ofList]

/-- The pairs of a query are what it says. -/
theorem pairs_eq_told (q : Query) : q.pairs = q.told := by
  have hindex : (if q.index > 0 then [("index", Decimal.text q.index.toNat)] else []) =
      if q.index ≠ 0 then [("index", toString q.index)] else [] := by
    rw [show toString q.index = toString q.index.toNat from rfl, toString_eq_text]
    exact if_congr UInt64.pos_iff_ne_zero rfl rfl
  have hhash : (if q.hash.isEmpty then [] else [("hash", q.hash)]) =
      if q.hash ≠ "" then [("hash", q.hash)] else [] := by
    rw [ite_not]
    exact if_congr String.isEmpty_iff rfl rfl
  have hwait : (if q.wait = 0 then [] else [("wait", s!"{Decimal.text q.wait}ms")]) =
      if q.wait ≠ 0 then [("wait", toString q.wait ++ "ms")] else [] := by
    rw [ite_not, toString_eq_text]
    rfl
  rw [pairs, told, hindex, hhash, hwait]
  refine congrArg _ ?_
  cases q.datacenter with
  | none => rfl
  | some name =>
      rw [ite_not]
      exact if_congr String.isEmpty_iff rfl rfl

/-- Each option can be looked up in what a query says, where silence stands for
    nothing. -/
theorem lookup_told (q : Query) :
    (q.told.lookup "index").getD (toString (0 : UInt64)) = toString q.index ∧
      (q.told.lookup "hash").getD "" = q.hash ∧
      (q.told.lookup "wait").getD (toString 0 ++ "ms") = toString q.wait ++ "ms" ∧
      (q.told.lookup "dc").getD "" = q.datacenter.getD "" := by
  rw [told]
  split_ifs <;> simp_all [List.lookup_cons, List.lookup_nil]

/-- **What a query says tells its options.** -/
theorem alike_of_told {q q' : Query} (h : q.told = q'.told) : q.Alike q' := by
  obtain ⟨hindex, hhash, hwait, hdatacenter⟩ := lookup_told q
  obtain ⟨hindex', hhash', hwait', hdatacenter'⟩ := lookup_told q'
  rw [h] at hindex hhash hwait hdatacenter
  have hms : toString q.wait = toString q'.wait :=
    (String.append_left_inj "ms").1 (hwait.symm.trans hwait')
  exact
    { index := UInt64.toNat_inj.1 (Decimal.toString_inj (hindex.symm.trans hindex'))
      hash := hhash.symm.trans hhash'
      wait := Decimal.toString_inj hms
      datacenter := hdatacenter.symm.trans hdatacenter' }

end Query

/-! ## Requests -/

/-- The request for a plain path over the web. -/
theorem exists_request {c : Client} {parts : List (List Char)}
    (hparts : c.address.path = .segments parts) (hweb : c.address.family = .web) {path : String}
    {cs : List Char} (htext : path.toList = '/' :: cs) (hplain : PlainPath cs) (q : Query) :
    ∃ r, c.request path q = .ok r ∧ r.method = "GET" ∧ r.url.scheme = c.address.scheme ∧
      r.url.authority = c.address.authority ∧ r.url.path.text = path.toList ∧
      (∃ query, r.url.query = some query) ∧ r.url.queryPairs = q.told := by
  have hurl := Url.withReference_plain hparts hweb hplain htext
  rw [Client.request, hurl]
  refine ⟨_, rfl, rfl, rfl, rfl, ?_, ⟨_, rfl⟩, ?_⟩
  · rw [htext]
    exact Url.text_splitChars cs
  · rw [← Query.pairs_eq_told]
    exact Url.queryPairs_withPairs _ _

/-- **Blocking queries ask for what they are told.**  At every address of the
    web, with any token, a query for a subject with a plain name is a request at
    that address for the path of its endpoint with the name behind it, and the
    pairs behind the question mark are what the query says, in order.  Requests
    that ask for the same thing are about the same path and come from queries
    that say the same. -/
theorem asks_what_is_told {address : String} {u : Url} (haddress : Url.parse address = .ok u)
    (hscheme : u.scheme = "http" ∨ u.scheme = "https") (token : Option String) :
    ∃ c, Client.connect address token = .ok c ∧
      (∀ (s : Subject) (q : Query), s.Plain → ∃ r, c.request s.path q = .ok r ∧
        r.method = "GET" ∧ r.url.scheme = u.scheme ∧ r.url.authority = u.authority ∧
        r.url.pathText = s.place ++ s.name ∧ r.url.queryPairs = q.told) ∧
      ∀ (s s' : Subject) (q q' : Query) (r r' : Http.Request), s.Plain → s'.Plain →
        c.request s.path q = .ok r → c.request s'.path q' = .ok r' →
        r.url.target = r'.url.target → s.path = s'.path ∧ q.Alike q' := by
  have hweb := Url.family_of_scheme hscheme
  obtain ⟨-, parts, hparts⟩ := Url.place_of_parse haddress hweb
  refine ⟨⟨u, token⟩, by rw [Client.connect, haddress], ?_, ?_⟩
  · intro s q hs
    obtain ⟨cs, htext, hplain⟩ := hs.exists_path
    obtain ⟨r, hr, hmethod, hscheme, hauthority, hpath, -, hpairs⟩ :=
      exists_request (c := ⟨u, token⟩) hparts hweb htext hplain q
    refine ⟨r, hr, hmethod, hscheme, hauthority, ?_, hpairs⟩
    rw [Url.pathText, hpath, String.ofList_toList, s.path_eq]
  · intro s s' q q' r r' hs hs' hr hr' htarget
    obtain ⟨cs, htext, hplain⟩ := hs.exists_path
    obtain ⟨cs', htext', hplain'⟩ := hs'.exists_path
    obtain ⟨_, heq, -, -, -, hpath, ⟨query, hquery⟩, hpairs⟩ :=
      exists_request (c := ⟨u, token⟩) hparts hweb htext hplain q
    cases hr.symm.trans heq
    obtain ⟨_, heq', -, -, -, hpath', ⟨query', hquery'⟩, hpairs'⟩ :=
      exists_request (c := ⟨u, token⟩) hparts hweb htext' hplain' q'
    cases hr'.symm.trans heq'
    -- no path of a subject has a question mark in it
    have hmark : ∀ c ∈ r.url.path.text, c ≠ '?' := by
      rw [hpath, htext]
      exact fun c hc => (hplain.unmarked c hc).2
    have hmark' : ∀ c ∈ r'.url.path.text, c ≠ '?' := by
      rw [hpath', htext']
      exact fun c hc => (hplain'.unmarked c hc).2
    obtain ⟨hpaths, hqueries⟩ := Url.parts_of_target hmark hmark' hquery hquery' htarget
    have htold : q.told = q'.told := by
      rw [← hpairs, ← hpairs', Url.queryPairs, Url.queryPairs, hquery, hquery', hqueries]
    rw [hpath, hpath'] at hpaths
    exact ⟨String.toList_inj.1 hpaths, Query.alike_of_told htold⟩

/-- An address of which only the scheme and the authority count. -/
def agentAddress : Url :=
  ⟨"https", some ⟨[], none, some (.ipv6 [0, 0, 0, 0, 0, 0, 0, 1]), some 8501⟩,
    .segments ["ui".toList, []], some "x".toList, some "y".toList⟩

/-- A hash of characters that mean something to a query is told as it is, and
    with another one the request asks for something else. -/
theorem odd_hash_is_told :
    Url.parse "https://[::1]:8501/ui/?x#y" = .ok agentAddress ∧
      ∃ c, Client.connect "https://[::1]:8501/ui/?x#y" (some "token") = .ok c ∧
        ∃ r r', c.request "/v1/agent/service/web-1" ⟨0, "a&b=%C3+ é", 300000, some "dc 1"⟩ = .ok r ∧
          c.request "/v1/agent/service/web-1" ⟨0, "a&b=%C3+ è", 300000, some "dc 1"⟩ = .ok r' ∧
          r.url.pathText = "/v1/agent/service/web-1" ∧
          r.url.queryPairs = [("hash", "a&b=%C3+ é"), ("wait", "300000ms"), ("dc", "dc 1")] ∧
          r.url.target ≠ r'.url.target := by
  have haddress : Url.parse "https://[::1]:8501/ui/?x#y" = .ok agentAddress := by
    decide +kernel
  have hs : (Subject.agentService "web-1").Plain := ⟨by decide, by decide, by decide⟩
  have hname : "/v1/agent/service/" ++ "web-1" = "/v1/agent/service/web-1" := by
    rw [← String.toList_inj, String.toList_append]
    rfl
  have hplace : (Subject.agentService "web-1").path = "/v1/agent/service/web-1" :=
    (Subject.path_eq _).trans hname
  have hms : toString 300000 ++ "ms" = "300000ms" := by
    rw [← String.toList_inj, String.toList_append]
    rfl
  have htold : Query.told ⟨0, "a&b=%C3+ é", 300000, some "dc 1"⟩ =
      [("hash", "a&b=%C3+ é"), ("wait", "300000ms"), ("dc", "dc 1")] := by
    rw [← hms]
    simp [Query.told]
  obtain ⟨c, hc, hasked, hapart⟩ := asks_what_is_told haddress (.inr rfl) (some "token")
  obtain ⟨r, hr, -, -, -, hpath, hpairs⟩ := hasked _ ⟨0, "a&b=%C3+ é", 300000, some "dc 1"⟩ hs
  obtain ⟨r', hr', -⟩ := hasked _ ⟨0, "a&b=%C3+ è", 300000, some "dc 1"⟩ hs
  refine ⟨haddress, c, hc, r, r', hplace ▸ hr, hplace ▸ hr', hpath.trans hname,
    hpairs.trans htold, ?_⟩
  intro htarget
  obtain ⟨-, halike⟩ := hapart _ _ _ _ r r' hs hs hr hr' htarget
  exact absurd halike.hash (by decide)

end Mesh

end MeshSync
