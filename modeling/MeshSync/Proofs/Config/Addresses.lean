import MeshSync.Config.Problem
import MeshSync.Dataplane.Connection
import MeshSync.Proofs.Mesh.Asking
import MeshSync.Proofs.Url.Extending

/-! # What comes of an accepted address

    An address that has no problem is one of HTTP.  The control plane's client
    asks for its paths beside it, so that nothing of the address counts but who
    is addressed (`accepted_addresses`, first part); the connection to the
    proxy's interface puts them behind its text, so that they come behind the
    path of the address or, where that has a query or a fragment, are lost
    (second part). -/

namespace MeshSync.Config

open Url (PlainPath PlainRequest EndsVisibly requestText slashes trunk)

/-! ## Acceptance -/

/-- Whether nothing is wrong with a setting. -/
def Accepts (c : Config) (field : String) : Prop := ∀ p ∈ problems c, p.field ≠ field

instance (c : Config) (field : String) : Decidable (c.Accepts field) :=
  inferInstanceAs (Decidable (∀ p ∈ problems c, p.field ≠ field))

/-- Nothing is wrong with a setting that is accepted. -/
theorem Accepts.cause {c : Config} {field : String} {cause : Option Cause}
    (h : c.Accepts field) (hcause : (field, cause) ∈ causes c) : cause = none := by
  cases cause with
  | none => rfl
  | some cause =>
      have hproblem : (⟨field, cause⟩ : Problem) ∈ problems c :=
        List.mem_filterMap.2 ⟨(field, some cause), hcause, rfl⟩
      exact absurd rfl (h _ hproblem)

/-- An address without a cause for complaint is one of HTTP. -/
theorem exists_url {address : String} (h : urlCause? address = none) :
    ∃ u, Url.parse address = .ok u ∧ (u.scheme = "http" ∨ u.scheme = "https") := by
  rw [urlCause?] at h
  cases hparse : Url.parse address with
  | error cause =>
      rw [hparse] at h
      cases h
  | ok u =>
      rw [hparse] at h
      refine ⟨u, rfl, ?_⟩
      by_contra hscheme
      rw [not_or] at hscheme
      simp [hscheme] at h

/-! ## Where requests go -/

/-- The path of an address without the slashes at its end. -/
def ownPath (u : Url) : List Char := u.path.text.rdropWhile (· = '/')

/-- Whether a URL is what an address and a path behind it say. -/
structure Leads (u : Url) (cs : List Char) (v : Url) : Prop where
  scheme : v.scheme = u.scheme
  authority : v.authority = u.authority
  path : v.path.text = ownPath u ++ '/' :: cs

/-- Whether an address ends with its path. -/
def Bare (u : Url) : Prop := u.query = none ∧ u.fragment = none

/-- Slashes at the end do not count for the path of an address. -/
theorem ownPath_eq {u : Url} {lead s : List Char} (h : u.path.text = lead ++ s)
    (hs : ∀ c ∈ s, c = '/') : ownPath u = lead.rdropWhile (· = '/') := by
  have hdrop : ∀ c ∈ s.reverse, decide (c = '/') = true := by
    intro c hc
    exact decide_eq_true (hs c (List.mem_reverse.1 hc))
  rw [ownPath, h, List.rdropWhile, List.reverse_append, List.dropWhile_append_of_pos hdrop]
  rfl

/-- What comes of queries to the control plane's agent, by what is read of its
    address. -/
structure Asks (client : Mesh.Client) (u : Url) : Prop where
  /-- Every plain path is asked for at the scheme and the authority of the
  address, and alone: the path of the address does not count. -/
  alone : ∀ {path : String} {cs : List Char} (q : Mesh.Query), path.toList = '/' :: cs →
    PlainPath cs → ∃ r, client.request path q = .ok r ∧ r.url.scheme = u.scheme ∧
      r.url.authority = u.authority ∧ r.url.path.text = '/' :: cs
  /-- Requests go where the address says just if its path is nothing but slashes. -/
  leads : (∀ (path : String) (cs : List Char) (q : Mesh.Query) (r : Http.Request),
      path.toList = '/' :: cs → PlainPath cs → client.request path q = .ok r →
        Leads u cs r.url) ↔ ownPath u = []

/-- What comes of requests over a connection, by what is read of its address and
    what this leads to. -/
structure Carries (connection : Dataplane.Connection) (u : Url) (lead : List Char) : Prop where
  /-- Every plain request is made, at the scheme and the authority of the
  address: for its own path and query behind the front if the address ends with
  its path; else its path is lost. -/
  made : ∀ {r : Dataplane.Request} {cs : List Char} {query : Option (List Char)},
    r.path.toList = requestText cs query → PlainRequest cs query →
    ∃ sent, connection.request? r = some sent ∧ sent.url.scheme = u.scheme ∧
      sent.url.authority = u.authority ∧
      (Bare u → sent.url.path.text = lead ++ '/' :: cs ∧ sent.url.query = query) ∧
      (¬ Bare u → sent.url.path = u.path)
  /-- Requests go where the address says just if it ends with its path and its
  front ends in no slash. -/
  leads : (∀ (r : Dataplane.Request) (cs : List Char) (query : Option (List Char))
      (sent : Http.Request), r.path.toList = requestText cs query → PlainRequest cs query →
        connection.request? r = some sent → Leads u cs sent.url ∧ sent.url.query = query) ↔
    Bare u ∧ lead.getLast? ≠ some '/'

/-! ## Beside an address -/

theorem asks {u : Url} {parts : List (List Char)} (hparts : u.path = .segments parts)
    (hweb : u.family = .web) (token : Option String) : Asks ⟨u, token⟩ u := by
  have halone {path : String} {cs : List Char} (q : Mesh.Query) (htext : path.toList = '/' :: cs)
      (hplain : PlainPath cs) : ∃ r, Mesh.Client.request ⟨u, token⟩ path q = .ok r ∧
        r.url.scheme = u.scheme ∧ r.url.authority = u.authority ∧ r.url.path.text = '/' :: cs := by
    obtain ⟨r, hr, -, hscheme, hauthority, hpath, -⟩ :=
      Mesh.exists_request (c := ⟨u, token⟩) hparts hweb htext hplain q
    exact ⟨r, hr, hscheme, hauthority, hpath.trans htext⟩
  refine ⟨halone, ?_, ?_⟩
  · intro hleads
    have hplain : PlainPath [] := by decide
    have hroot : "/".toList = '/' :: [] := rfl
    obtain ⟨r, hr, -, -, hpath⟩ := halone .immediate hroot hplain
    have hown := (hleads "/" [] .immediate r hroot hplain hr).path
    rw [hpath] at hown
    exact List.append_left_eq_self.1 hown.symm
  · intro hown path cs q r htext hplain hr
    obtain ⟨_, hr', hscheme, hauthority, hpath⟩ := halone q htext hplain
    cases hr.symm.trans hr'
    refine ⟨hscheme, hauthority, ?_⟩
    rw [hown, hpath, List.nil_append]

/-! ## Behind an address -/

section Connection

variable {address username password : String} {u : Url}

/-- A request is for what is read of the address with the path behind it. -/
theorem exists_sent (username password : String) {r : Dataplane.Request} {text : List Char} {v : Url}
    (htext : r.path.toList = text)
    (h : Url.parse (String.ofList (trunk address ++ text)) = .ok v) :
    ∃ sent, (Dataplane.Connection.ofAddress address username password).request? r = some sent ∧
      sent.url = v := by
  have hwhole : (Dataplane.Connection.ofAddress address username password).address ++ r.path =
      String.ofList (trunk address ++ text) := by
    rw [← String.toList_inj, String.toList_append, String.toList_ofList, htext]
    exact congrArg (· ++ text) String.toList_ofList
  rw [Dataplane.Connection.request?, hwhole, h]
  exact ⟨_, rfl, rfl⟩

/-- A path that everybody asks for. -/
theorem plainRequest_info : PlainRequest "v1/info".toList none :=
  ⟨by decide, fun q hq => nomatch hq⟩

/-- An address that ends with its path. -/
theorem carries_of_bare {lead : List Char} (hbare : Bare u)
    (hown : ownPath u = lead.rdropWhile (· = '/'))
    (h : ∀ cs query, PlainRequest cs query → ∃ v,
      Url.parse (String.ofList (trunk address ++ requestText cs query)) = .ok v ∧
        v.scheme = u.scheme ∧ v.authority = u.authority ∧ v.path.text = lead ++ '/' :: cs ∧
        v.query = query ∧ v.fragment = none) :
    Carries (.ofAddress address username password) u lead := by
  have hmade {r : Dataplane.Request} {cs : List Char} {query : Option (List Char)}
      (htext : r.path.toList = requestText cs query) (hrequest : PlainRequest cs query) :
      ∃ sent, (Dataplane.Connection.ofAddress address username password).request? r =
          some sent ∧ sent.url.scheme = u.scheme ∧ sent.url.authority = u.authority ∧
        sent.url.path.text = lead ++ '/' :: cs ∧ sent.url.query = query := by
    obtain ⟨v, hv, hscheme, hauthority, hpath, hquery, -⟩ := h cs query hrequest
    obtain ⟨sent, hsent, rfl⟩ := exists_sent username password htext hv
    exact ⟨sent, hsent, hscheme, hauthority, hpath, hquery⟩
  refine ⟨?_, ?_, ?_⟩
  · intro r cs query htext hrequest
    obtain ⟨sent, hsent, hscheme, hauthority, hboth⟩ := hmade htext hrequest
    exact ⟨sent, hsent, hscheme, hauthority, fun _ => hboth, fun hnot => absurd hbare hnot⟩
  · intro hleads
    refine ⟨hbare, fun hlast => ?_⟩
    obtain ⟨sent, hsent, -, -, hpath, -⟩ :=
      hmade (r := ⟨.get, Dataplane.infoPath, none⟩) rfl plainRequest_info
    have hsame := (hleads _ _ none sent rfl plainRequest_info hsent).1.path
    rw [hpath] at hsame
    -- a path that is carried whole has no slash at its end, for that would have been dropped
    have hself : lead.rdropWhile (· = '/') = lead := by
      rw [← hown]
      exact (List.append_cancel_right hsame).symm
    obtain ⟨front, hfront⟩ := List.getLast?_eq_some_iff.1 hlast
    have hne : lead ≠ [] := by simp [hfront]
    have hslash : lead.getLast hne = '/' := by simp [hfront]
    exact List.rdropWhile_eq_self_iff.1 hself hne (decide_eq_true hslash)
  · rintro ⟨-, hlast⟩ r cs query sent htext hrequest hsent
    obtain ⟨_, hsent', hscheme, hauthority, hpath, hquery⟩ := hmade htext hrequest
    cases hsent.symm.trans hsent'
    have hself : lead.rdropWhile (· = '/') = lead := by
      refine List.rdropWhile_eq_self_iff.2 fun hne hslash => hlast ?_
      rw [List.getLast?_eq_some_getLast hne, of_decide_eq_true hslash]
    exact ⟨⟨hscheme, hauthority, by rw [hpath, hown, hself]⟩, hquery⟩

/-- An address with a query or a fragment. -/
theorem carries_of_marked (hmarked : ¬ Bare u)
    (h : ∀ cs query, PlainRequest cs query → ∃ v,
      Url.parse (String.ofList (trunk address ++ requestText cs query)) = .ok v ∧
        v.scheme = u.scheme ∧ v.authority = u.authority ∧ v.path = u.path) :
    Carries (.ofAddress address username password) u [] := by
  have hmade {r : Dataplane.Request} {cs : List Char} {query : Option (List Char)}
      (htext : r.path.toList = requestText cs query) (hrequest : PlainRequest cs query) :
      ∃ sent, (Dataplane.Connection.ofAddress address username password).request? r =
          some sent ∧ sent.url.scheme = u.scheme ∧ sent.url.authority = u.authority ∧
        sent.url.path = u.path := by
    obtain ⟨v, hv, hscheme, hauthority, hpath⟩ := h cs query hrequest
    obtain ⟨sent, hsent, rfl⟩ := exists_sent username password htext hv
    exact ⟨sent, hsent, hscheme, hauthority, hpath⟩
  refine ⟨?_, ?_, fun hboth => absurd hboth.1 hmarked⟩
  · intro r cs query htext hrequest
    obtain ⟨sent, hsent, hscheme, hauthority, hpath⟩ := hmade htext hrequest
    exact ⟨sent, hsent, hscheme, hauthority, fun hbare => absurd hbare hmarked, fun _ => hpath⟩
  · intro hleads
    obtain ⟨sent, hsent, -, -, hpath⟩ :=
      hmade (r := ⟨.get, Dataplane.infoPath, none⟩) rfl plainRequest_info
    have hsame := (hleads _ _ none sent rfl plainRequest_info hsent).1.path
    -- the path of the address is its front and slashes, which are no path of a request
    have hfront : ownPath u ++ u.path.text.rtakeWhile (· = '/') = u.path.text :=
      List.rdropWhile_append_rtakeWhile
    rw [hpath, ← hfront] at hsame
    have hslashes := List.append_cancel_left hsame
    have hmem : 'v' ∈ u.path.text.rtakeWhile (· = '/') := by
      rw [hslashes]
      decide
    exact absurd (List.mem_rtakeWhile_imp (p := (· = '/')) hmem) (by decide)

theorem carries (h : Url.parse address = .ok u) (hweb : u.family = .web)
    (hend : EndsVisibly address.toList) (username password : String) :
    ∃ lead, (Bare u → u.path.text = lead ++ slashes address ∨
        slashes address = [] ∧ u.path.text = lead ++ ['/']) ∧
      Carries (.ofAddress address username password) u lead := by
  by_cases hbare : Bare u
  · obtain ⟨lead, hlead, hbehind⟩ := Url.parse_append h hweb hend hbare.1 hbare.2
    refine ⟨lead, fun _ => hlead, carries_of_bare hbare ?_ hbehind⟩
    rcases hlead with hlead | ⟨-, hlead⟩
    · exact ownPath_eq hlead fun c hc => Url.eq_slash_of_mem hc
    · exact ownPath_eq hlead fun c hc => List.mem_singleton.1 hc
  · exact ⟨[], fun hnot => absurd hnot hbare,
      carries_of_marked hbare fun cs query => Url.parse_append_marked h hweb hend hbare⟩

end Connection

/-! ## Accepted addresses -/

/-- **Where requests go at accepted addresses.**  The client of the control plane
    takes every accepted address and asks there for each path alone, which is
    what the address says just if its own path is nothing but slashes.  A
    connection to an accepted address that ends in no blank makes every request
    at the right scheme, host and port, and its path comes behind the path of
    the address, less slashes at the end; the address goes wrong only where it
    has a query or a fragment, or leads to a front with a slash at its end. -/
theorem accepted_addresses (c : Config) :
    (c.Accepts "consul.address" → ∃ u, Url.parse c.controlPlane.address = .ok u ∧
      ∀ token, ∃ client, Mesh.Client.connect c.controlPlane.address token = .ok client ∧
        Asks client u) ∧
    (c.Accepts "dataplane.address" → EndsVisibly c.dataplane.address.toList →
      ∃ u lead, Url.parse c.dataplane.address = .ok u ∧
        (Bare u → u.path.text = lead ++ slashes c.dataplane.address ∨
          slashes c.dataplane.address = [] ∧ u.path.text = lead ++ ['/']) ∧
        Carries (.ofAddress c.dataplane.address c.dataplane.username c.dataplane.password) u
          lead) := by
  constructor
  · intro haccepts
    have hcause : ("consul.address", urlCause? c.controlPlane.address) ∈ causes c := by
      simp [causes]
    obtain ⟨u, hu, hscheme⟩ := exists_url (haccepts.cause hcause)
    have hweb := Url.family_of_scheme hscheme
    obtain ⟨-, parts, hparts⟩ := Url.place_of_parse hu hweb
    refine ⟨u, hu, fun token => ⟨⟨u, token⟩, by rw [Mesh.Client.connect, hu], ?_⟩⟩
    exact asks hparts hweb token
  · intro haccepts hend
    have hcause : ("dataplane.address", urlCause? c.dataplane.address) ∈ causes c := by
      simp [causes]
    obtain ⟨u, hu, hscheme⟩ := exists_url (haccepts.cause hcause)
    obtain ⟨lead, hlead, hcarries⟩ := carries hu (Url.family_of_scheme hscheme) hend
      c.dataplane.username c.dataplane.password
    exact ⟨u, lead, hu, hlead, hcarries⟩

/-- The settings of a proxy whose interface is behind a path. -/
def behindProxy : Config :=
  { standard with
    serviceId := "web-1"
    controlPlane := ⟨"http://[::1]:8500", none⟩
    dataplane := ⟨"http://[::1]:5555/proxy/", "admin", "", 10⟩ }

/-- The path of the interface stays in front of the path of a request. -/
theorem proxy_path_is_kept :
    (behindProxy.Accepts "consul.address" ∧ ∃ client r,
      Mesh.Client.connect "http://[::1]:8500" none = .ok client ∧
        client.request "/v1/agent/services" .immediate = .ok r ∧
        r.url.path.text = "/v1/agent/services".toList) ∧
    behindProxy.Accepts "dataplane.address" ∧
      EndsVisibly behindProxy.dataplane.address.toList ∧
      ∃ sent, (Dataplane.Connection.ofAddress "http://[::1]:5555/proxy/" "admin" "").request?
          ⟨.get, Dataplane.infoPath, none⟩ = some sent ∧
        sent.url.path.text = "/proxy/v1/info".toList := by
  have hagent : behindProxy.Accepts "consul.address" := by decide +kernel
  have hinterface : behindProxy.Accepts "dataplane.address" := by decide +kernel
  have hend : EndsVisibly behindProxy.dataplane.address.toList := by
    intro c hc
    have hlast : (Url.visible behindProxy.dataplane.address.toList).getLast? = some '/' := by decide
    rw [← Option.some.inj (hlast.symm.trans hc)]
    decide
  have hread : Url.parse behindProxy.dataplane.address =
      .ok ⟨"http", some ⟨[], none, some (.ipv6 [0, 0, 0, 0, 0, 0, 0, 1]), some 5555⟩,
        .segments ["proxy".toList, []], none, none⟩ := by
    decide +kernel
  obtain ⟨hasks, hcarries⟩ := accepted_addresses behindProxy
  obtain ⟨u, -, hconnects⟩ := hasks hagent
  obtain ⟨client, hclient, hclientAsks⟩ := hconnects none
  obtain ⟨r, hr, -, -, hpath⟩ := hclientAsks.alone .immediate
    (show "/v1/agent/services".toList = '/' :: "v1/agent/services".toList from rfl) (by decide)
  obtain ⟨u, lead, hu, hlead, hcarries⟩ := hcarries hinterface hend
  cases hread.symm.trans hu
  obtain ⟨sent, hsent, -, -, hbehind, -⟩ :=
    hcarries.made (r := ⟨.get, Dataplane.infoPath, none⟩) rfl plainRequest_info
  refine ⟨⟨hagent, client, r, hclient, hr, hpath⟩, hinterface, hend, sent, hsent, ?_⟩
  have hslashes : slashes behindProxy.dataplane.address = ['/'] := by decide
  have hfront : lead = "/proxy".toList := by
    rcases hlead ⟨rfl, rfl⟩ with hlead | ⟨hnil, -⟩
    · rw [hslashes] at hlead
      have hboth : "/proxy".toList ++ ['/'] = lead ++ ['/'] := hlead
      exact (List.append_cancel_right hboth).symm
    · rw [hslashes] at hnil
      cases hnil
  rw [(hbehind ⟨rfl, rfl⟩).1, hfront]
  rfl

/-- The settings of somebody who copied a blank and put the agent behind a
    path. -/
def copied : Config :=
  { standard with
    serviceId := "web-1"
    controlPlane := ⟨"http://[::1]:8500/agent", none⟩
    dataplane := ⟨"http://[::1]:5555 ", "admin", "", 10⟩ }

/-- What is read of the address of that agent. -/
def copiedUrl : Url :=
  ⟨"http", some ⟨[], none, some (.ipv6 [0, 0, 0, 0, 0, 0, 0, 1]), some 8500⟩,
    .segments ["agent".toList], none, none⟩

/-- **Accepted addresses that do not work**: behind the blank every path becomes
    a part of the port, and the agent is asked without the path that it is
    behind. -/
theorem copied_addresses_go_wrong :
    problems copied = [] ∧
      (∃ client r, Mesh.Client.connect copied.controlPlane.address none = .ok client ∧
        client.request "/v1/agent/services" .immediate = .ok r ∧
        r.url.path.text = "/v1/agent/services".toList) ∧
      (Dataplane.Connection.ofAddress copied.dataplane.address "admin" "").request?
        ⟨.get, Dataplane.infoPath, none⟩ = none := by
  have hread : Url.parse copied.controlPlane.address = .ok copiedUrl := by decide +kernel
  have hasks : Asks ⟨copiedUrl, none⟩ copiedUrl := asks rfl (by decide) none
  obtain ⟨r, hr, -, -, hpath⟩ := hasks.alone .immediate
    (show "/v1/agent/services".toList = '/' :: "v1/agent/services".toList from rfl) (by decide)
  refine ⟨by decide +kernel, ⟨⟨copiedUrl, none⟩, r, ?_, hr, hpath⟩, ?_⟩
  · rw [Mesh.Client.connect, hread]
  · rw [← Option.isNone_iff_eq_none]
    decide +kernel

end MeshSync.Config
