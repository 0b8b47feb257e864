import Mathlib.Logic.Basic
import MeshSync.Admin
import MeshSync.Proofs.Bytes
import MeshSync.Proofs.Json.Reading
import MeshSync.Proofs.Text.Splitting

/-! # What the key guards

    Two runs of the admin interface, over statuses of which nothing but the
    readiness is the same, tell a client without the key nothing: every answer
    is the same in both (`conceals_of_not_authorized`).  A client with the key
    gets a text that no other status has (`text_json_inj`).  Which clients are
    which is said by `authorized_iff`: the header has to be the word and the
    key, and it has to be readable as a text, which a key with a character
    outside ASCII never is. -/

namespace MeshSync

/-! ## The text of a status -/

namespace Reconcile.Status

/-- What is told of the downstream. -/
def downstreamJson (d : DownstreamStatus) : Json :=
  .object [("bind", .string d.bind), ("target", .string d.target)]

theorem json_eq (s : Status) : s.json =
    .object [("downstream", .ofOption downstreamJson s.downstream),
      ("last_error", .ofOption .string s.lastError), ("ready", .bool s.ready),
      ("service", .ofOption .string s.service), ("upstreams", .array (s.upstreams.map .string)),
      ("version", .ofNat s.version.toNat)] := by
  have hdownstream : (fun d : DownstreamStatus =>
      Json.ofFields [("bind", .string d.bind), ("target", .string d.target)]) = downstreamJson := by
    have h : compare "target" "bind" = .gt := by decide
    funext d
    simp [downstreamJson, Json.ofFields, SortedMap.ofList, SortedMap.insert, SortedMap.put,
      SortedMap.empty, h]
  have h1 : compare "version" "ready" = .gt := by decide
  have h2 : compare "service" "ready" = .gt := by decide
  have h3 : compare "service" "version" = .lt := by decide
  have h4 : compare "downstream" "ready" = .lt := by decide
  have h5 : compare "upstreams" "downstream" = .gt := by decide
  have h6 : compare "upstreams" "ready" = .gt := by decide
  have h7 : compare "upstreams" "service" = .gt := by decide
  have h8 : compare "upstreams" "version" = .lt := by decide
  have h9 : compare "last_error" "downstream" = .gt := by decide
  have h10 : compare "last_error" "ready" = .lt := by decide
  rw [json, hdownstream]
  simp [Json.ofFields, SortedMap.ofList, SortedMap.insert, SortedMap.put, SortedMap.empty, h1, h2,
    h3, h4, h5, h6, h7, h8, h9, h10]

theorem readable_json (s : Status) : s.json.source.Readable := by
  have hdownstream (d : DownstreamStatus) : (downstreamJson d).source.Readable :=
    Json.readable_object <| by
      simp only [List.forall_mem_cons]
      exact ⟨.string _, .string _, List.forall_mem_nil _⟩
  rw [json_eq]
  refine Json.readable_object ?_
  simp only [List.forall_mem_cons]
  refine ⟨Json.readable_ofOption hdownstream _, Json.readable_ofOption .string _, .bool _,
    Json.readable_ofOption .string _, Json.readable_array fun j hj => ?_, Json.readable_ofNat _,
    List.forall_mem_nil _⟩
  obtain ⟨name, -, rfl⟩ := List.mem_map.1 hj
  exact .string name

theorem downstreamJson_inj {d d' : DownstreamStatus}
    (h : (downstreamJson d).source = (downstreamJson d').source) : d = d' := by
  simp only [downstreamJson, Json.source, Json.fieldSources, Source.object.injEq, List.cons.injEq,
    Prod.mk.injEq, Source.string.injEq, Option.some.injEq, true_and, and_true] at h
  obtain ⟨hbind, htarget⟩ := h
  cases d
  cases d'
  rw [DownstreamStatus.mk.injEq]
  exact ⟨hbind, htarget⟩

/-- **The text of a status tells all of it.** -/
theorem text_json_inj {s s' : Status} (h : s.json.text = s'.json.text) : s = s' := by
  have hsource : s.json.source = s'.json.source := by
    have hread := Json.parse?_text s.readable_json
    rw [h, Json.parse?_text s'.readable_json] at hread
    exact (Option.some.inj hread).symm
  rw [json_eq, json_eq] at hsource
  simp only [Json.source, Json.fieldSources, Json.itemSources_eq, Source.object.injEq,
    Source.array.injEq, Source.bool.injEq, List.cons.injEq, Prod.mk.injEq, true_and,
    and_true] at hsource
  obtain ⟨hdownstream, herror, hready, hservice, hupstreams, hversion⟩ := hsource
  have hstring (a : String) : (Json.string a).source ≠ .null := Source.noConfusion
  have hobject (d : DownstreamStatus) : (downstreamJson d).source ≠ .null := Source.noConfusion
  cases s
  cases s'
  rw [Status.mk.injEq]
  refine ⟨hready, UInt64.toNat_inj.1 (Json.source_ofNat_inj hversion),
    Json.source_ofOption_inj Json.source_string_inj hstring hservice,
    Json.source_ofOption_inj downstreamJson_inj hobject hdownstream, ?_,
    Json.source_ofOption_inj Json.source_string_inj hstring herror⟩
  rw [List.map_map, List.map_map] at hupstreams
  exact (List.map_inj_right fun _ _ => Json.source_string_inj).1 hupstreams

end Reconcile.Status

namespace Admin

/-! ## The header -/

/-- The first header that says who asks. -/
def Request.authorization? (r : Request) : Option Bytes :=
  (r.headers.find? fun h => Text.lower h.1 = "authorization").map (·.2)

/-- Whether a request bears the key: that header is the word and the key. -/
def Request.Bears (r : Request) (key : String) : Prop :=
  r.authorization? = some (Bytes.ofText ("Bearer " ++ key))

/-- A key that a header can carry as a text. -/
def Visible (key : String) : Prop := ∀ c ∈ key.toList, c = '\t' ∨ ' ' ≤ c ∧ c ≤ '~'

theorem isVisible_iff {b : UInt8} :
    isVisible b = true ↔ b.toNat = 9 ∨ 32 ≤ b.toNat ∧ b.toNat < 127 := by
  rw [isVisible, Bool.or_eq_true, Bool.and_eq_true, decide_eq_true_eq, decide_eq_true_eq,
    decide_eq_true_eq, UInt8.le_iff_toNat_le, UInt8.lt_iff_toNat_lt, ← UInt8.toNat_inj]
  rfl

/-- A character can be read in a header just if it is a visible one. -/
theorem all_isVisible_ofChar (c : Char) :
    (Bytes.ofChar c).all isVisible = true ↔ c = '\t' ∨ ' ' ≤ c ∧ c ≤ '~' := by
  have hclass : (c = '\t' ∨ ' ' ≤ c ∧ c ≤ '~') ↔ c.toNat = 9 ∨ 32 ≤ c.toNat ∧ c.toNat < 127 := by
    rw [Char.le_def, Char.le_def, UInt32.le_iff_toNat_le, UInt32.le_iff_toNat_le, Char.ext_iff,
      ← UInt32.toNat_inj]
    exact or_congr Iff.rfl (and_congr Iff.rfl Nat.lt_succ_iff.symm)
  rw [hclass]
  by_cases hascii : c.toNat < 0x80
  · rw [Bytes.ofChar, if_pos hascii, List.all_cons, List.all_nil, Bool.and_true, isVisible_iff,
      Bytes.toNat_ofNat_of_lt (by omega)]
  · obtain ⟨b, more, hbytes, hb⟩ := Bytes.head_ofChar (Nat.le_of_not_lt hascii)
    rw [hbytes, List.all_cons, Bool.and_eq_true, isVisible_iff]
    omega

theorem all_isVisible_ofText (s : String) : (Bytes.ofText s).all isVisible = true ↔ Visible s := by
  rw [Bytes.ofText, Bytes.ofChars, List.all_flatMap, List.all_eq_true]
  exact forall₂_congr fun c _ => all_isVisible_ofChar c

theorem visible_bearer (key : String) : Visible ("Bearer " ++ key) ↔ Visible key := by
  have hword : Visible "Bearer " := (all_isVisible_ofText _).1 (by decide +kernel)
  rw [Visible, String.toList_append, List.forall_mem_append]
  exact and_iff_right hword

/-- A header is read as a text just if its bytes are those of a visible one. -/
theorem header?_authorization (r : Request) (s : String) :
    header? r "authorization" = some s ↔
      r.authorization? = some (Bytes.ofText s) ∧ Visible s := by
  have hlower : Text.lower "authorization" = "authorization" := by decide
  rw [header?, Request.authorization?, hlower]
  cases r.headers.find? fun h => Text.lower h.1 = "authorization" with
  | none => simp
  | some h =>
      obtain ⟨name, value⟩ := h
      show (if value.all isVisible then Bytes.text? value else none) = some s ↔
        some value = some (Bytes.ofText s) ∧ Visible s
      constructor
      · intro hs
        obtain ⟨hvisible, htext⟩ := Option.ite_none_right_eq_some.1 hs
        obtain ⟨t, rfl⟩ := Bytes.exists_ofText fun b hb => by
          have := isVisible_iff.1 (List.all_eq_true.1 hvisible b hb)
          omega
        rw [Bytes.text?_ofText] at htext
        rw [← Option.some.inj htext]
        exact ⟨rfl, (all_isVisible_ofText t).1 hvisible⟩
      · rintro ⟨hvalue, hvisible⟩
        rw [Option.some.inj hvalue, if_pos ((all_isVisible_ofText s).2 hvisible),
          Bytes.text?_ofText]

/-- **Who may see the status**: those who bear the key, if it can be borne. -/
theorem authorized_iff (key : String) (r : Request) :
    authorized (some key) r = true ↔ r.Bears key ∧ Visible key := by
  have hread : authorized (some key) r = true ↔
      header? r "authorization" = some ("Bearer " ++ key) := by
    rw [authorized]
    cases header? r "authorization" with
    | none => simp
    | some value =>
        show decide (Text.after? "Bearer " value = some key) = true ↔ _
        rw [decide_eq_true_eq, Text.after?_eq_some_iff, Option.some_inj]
  rw [hread, header?_authorization, visible_bearer, Request.Bears]

/-! ## What the answers tell -/

/-- The answer to the request is the same whatever the status, its readiness
    apart, which everybody may see. -/
def Conceals (key : String) (r : Request) : Prop :=
  ∀ s s' : Reconcile.Status, s.ready = s'.ready →
    respond (some key) s r = respond (some key) s' r

/-- The answer to the request is the status, and all of it. -/
structure Discloses (key : String) (r : Request) : Prop where
  answer : ∀ s, respond (some key) s r = .ofJson 200 s.json
  complete : ∀ s s', respond (some key) s r = respond (some key) s' r → s = s'

theorem health_congr {s s' : Reconcile.Status} (h : s.ready = s'.ready) : health s = health s' := by
  rw [health, health, h]

/-- A request that may not see the status learns nothing of it, whatever it asks
    for. -/
theorem conceals_of_not_authorized {key : String} {r : Request}
    (h : authorized (some key) r ≠ true) : Conceals key r := by
  intro s s' hready
  rw [respond, respond, health_congr hready]
  by_cases hhealth : r.target.pathText = "/health"
  · rw [if_pos hhealth, if_pos hhealth]
  · rw [if_neg hhealth, if_neg hhealth, if_neg h, if_neg h]

/-- A request for the status that may see it is told all. -/
theorem discloses_of_authorized {key : String} {r : Request} (h : authorized (some key) r = true)
    (hmethod : r.method = "GET") (hpath : r.target.pathText = "/status") : Discloses key r := by
  have hanswer (s : Reconcile.Status) : respond (some key) s r = .ofJson 200 s.json := by
    have hhealth : r.target.pathText ≠ "/health" := by rw [hpath]; decide
    rw [respond, if_neg hhealth, if_pos hpath, if_pos h, Response.forMethod, if_pos hmethod]
  refine ⟨hanswer, fun s s' hsame => ?_⟩
  rw [hanswer, hanswer] at hsame
  exact Reconcile.Status.text_json_inj (Response.mk.inj hsame).2.2.2

/-- What is told is not kept back: there are two statuses that are ready alike. -/
theorem Discloses.not_conceals {key : String} {r : Request} (h : Discloses key r) :
    ¬ Conceals key r := by
  intro hconceals
  have hsame : Reconcile.Status.initial = { Reconcile.Status.initial with version := 1 } :=
    h.complete _ _ (hconceals _ _ rfl)
  exact absurd hsame (by decide)

/-- **The key guards the status.**  A request that does not bear it is answered
    alike over all statuses that are ready alike, whatever its method, its path
    and its other headers.  A request for the status that bears it is told all of
    the status if a header can carry the key as a text, and nothing if not. -/
theorem key_guards_status (key : String) (r : Request) :
    (¬ r.Bears key → Conceals key r) ∧
      (r.Bears key → r.method = "GET" → r.target.pathText = "/status" →
        (Discloses key r ↔ Visible key) ∧ (Conceals key r ↔ ¬ Visible key)) := by
  refine ⟨fun hbears => ?_, fun hbears hmethod hpath => ?_⟩
  · exact conceals_of_not_authorized fun h => hbears ((authorized_iff key r).1 h).1
  · have hsees : Visible key → Discloses key r := fun hvisible =>
      discloses_of_authorized ((authorized_iff key r).2 ⟨hbears, hvisible⟩) hmethod hpath
    have hblind : ¬ Visible key → Conceals key r := fun hvisible =>
      conceals_of_not_authorized fun h => hvisible ((authorized_iff key r).1 h).2
    constructor
    · exact ⟨fun h => by_contra fun hvisible => h.not_conceals (hblind hvisible), hsees⟩
    · exact ⟨fun h hvisible => (hsees hvisible).not_conceals h, hblind⟩

/-- A request for the status with these headers. -/
def Request.forStatus (headers : List (String × Bytes)) : Request :=
  ⟨"GET", .path "/status".toList, headers⟩

/-- Two headers of one name, the key in the first. -/
def twoHeaders : List (String × Bytes) :=
  [("AUTHORIZATION", Bytes.ofText "Bearer letmein"), ("Authorization", Bytes.ofText "Bearer let")]

/-- The first header decides: with the key in it the status is seen, and with
    the key behind it is not. -/
theorem letmein_opens_status :
    ((Request.forStatus twoHeaders).Bears "letmein" ∧
      Discloses "letmein" (.forStatus twoHeaders)) ∧
    (¬ (Request.forStatus twoHeaders.reverse).Bears "letmein" ∧
      Conceals "letmein" (.forStatus twoHeaders.reverse)) := by
  have hbears : (Request.forStatus twoHeaders).Bears "letmein" := by
    show Request.authorization? _ = _
    decide +kernel
  have hbehind : ¬ (Request.forStatus twoHeaders.reverse).Bears "letmein" := by
    show Request.authorization? _ ≠ _
    decide +kernel
  have hpath : (Request.forStatus twoHeaders).target.pathText = "/status" := by
    show Http.Target.pathText (.path "/status".toList) = _
    decide +kernel
  have hvisible : Visible "letmein" := (all_isVisible_ofText _).1 (by decide +kernel)
  obtain ⟨hsees, -⟩ := (key_guards_status "letmein" _).2 hbears rfl hpath
  exact ⟨⟨hbears, hsees.2 hvisible⟩, hbehind, (key_guards_status "letmein" _).1 hbehind⟩

/-- **A key that lets nobody in**: the header is the word and the key, and yet
    the request is turned away, since the key is not in ASCII. -/
theorem accented_key_locks_out : ∃ r : Request,
    Request.make "GET" "/status" [("Authorization", Bytes.ofText "Bearer é")] = .ok r ∧
      r.Bears "é" ∧ r.method = "GET" ∧ r.target.pathText = "/status" ∧
      respond (some "é") .initial r = .bare 401 ∧ ¬ Discloses "é" r := by
  have hanswer : respond (some "é") .initial
      (.forStatus [("Authorization", Bytes.ofText "Bearer é")]) = .bare 401 := by decide +kernel
  refine ⟨.forStatus [("Authorization", Bytes.ofText "Bearer é")], ?_, ?_, rfl, ?_, hanswer,
    fun h => ?_⟩
  · rfl
  · show Request.authorization? _ = _
    decide +kernel
  · decide +kernel
  · have hsame := (h.answer .initial).symm.trans hanswer
    exact absurd (congrArg Response.status hsame) (by decide)

end Admin

end MeshSync
