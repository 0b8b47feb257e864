import MeshSync.Proofs.Reconcile.Likeness

/-! # The certificate files that objects name

    Only binds and servers name certificate files, and those that a snapshot
    builds name the files of their material (`cites_downstream`,
    `cites_upstream`).  Where all listeners of a snapshot have one material, an
    object of a store that shows it names no other files (`Shows.cites`).  What
    the files of other materials are called makes no difference to what is
    served (`Converged.repath`). -/

namespace MeshSync

namespace Dataplane

variable {files : Certificates.Paths} {v : Json}

/-- Whether a body names no certificate files but these. -/
structure Cites (files : Certificates.Paths) (v : Json) : Prop where
  certificate : ∀ t, v.field? "ssl_certificate" = some (.string t) → t = files.certificate
  caFile : ∀ t, v.field? "ssl_cafile" = some (.string t) → t = files.caFile

/-- A body without the fields for them names no files. -/
theorem Cites.of_absent {fields : List (String × Option Json)}
    (hcertificate : "ssl_certificate" ∉ fields.map (·.1))
    (hcaFile : "ssl_cafile" ∉ fields.map (·.1)) : Cites files (.present fields) := by
  constructor
  · intro t ht
    exact nomatch (find_present_of_not_mem hcertificate).symm.trans ht
  · intro t ht
    exact nomatch (find_present_of_not_mem hcaFile).symm.trans ht

/-- Whether a field is absent or names a file. -/
def NamesAtMost (field : Option String) (file : String) : Prop := ∀ t, field = some t → t = file

theorem NamesAtMost.of_json {field : Option String} {file t : String} (h : NamesAtMost field file)
    (ht : field.map Json.string = some (.string t)) : t = file := by
  obtain ⟨t', ht', heq⟩ := Option.map_eq_some_iff.1 ht
  exact h t (ht'.trans (congrArg some (Json.string.inj heq)))

/-- Whether an operation names no certificate files but these. -/
def Operation.Cites (files : Certificates.Paths) : Operation → Prop
  | createBind _ b => NamesAtMost b.sslCertificate files.certificate ∧
      NamesAtMost b.sslCafile files.caFile
  | createServer _ s => NamesAtMost s.sslCertificate files.certificate ∧
      NamesAtMost s.sslCafile files.caFile
  | _ => True

/-- What an operation creates names the files that the operation names. -/
theorem Operation.Cites.body {op : Operation} {k : ObjectKey} (h : op.Cites files)
    (hc : op.change = .create k v) : Dataplane.Cites files v := by
  -- only a bind and a server have fields that name files
  cases op with
  | createFrontend f =>
      obtain ⟨-, rfl⟩ := Change.create.inj hc
      exact .of_absent (by simp) (by simp)
  | createBind frontend b =>
      obtain ⟨-, rfl⟩ := Change.create.inj hc
      constructor
      · intro t ht
        rw [Bind.json, field?_present _ (by simp)] at ht
        exact h.1.of_json ht
      · intro t ht
        rw [Bind.json, field?_present _ (by simp)] at ht
        exact h.2.of_json ht
  | createBackend b =>
      obtain ⟨-, rfl⟩ := Change.create.inj hc
      exact .of_absent (by simp) (by simp)
  | createServer backend s =>
      obtain ⟨-, rfl⟩ := Change.create.inj hc
      constructor
      · intro t ht
        rw [Reconcile.field?_server] at ht
        exact h.1.of_json ht
      · intro t ht
        rw [Reconcile.field?_server] at ht
        exact h.2.of_json ht
  | createLogTarget owner t =>
      obtain ⟨-, rfl⟩ := Change.create.inj hc
      exact .of_absent (by simp) (by simp)
  | createFilter owner f =>
      obtain ⟨-, rfl⟩ := Change.create.inj hc
      exact .of_absent (by simp) (by simp)
  | createTcpRequestRule owner r =>
      obtain ⟨-, rfl⟩ := Change.create.inj hc
      exact .of_absent (by simp) (by simp)
  | replaceServer backend s => exact nomatch hc
  | deleteServer backend name => exact nomatch hc
  | deleteFrontend name => exact nomatch hc
  | deleteBackend name => exact nomatch hc

end Dataplane

/-- Whether all listeners of a snapshot have one material. -/
def Snapshot.Uniform (x : Snapshot) : Prop := ∀ m ∈ x.tlsMaterials, m = x.downstream.tls

namespace Reconcile

open Dataplane

variable {paths : TlsMaterial → Certificates.Paths} {options : Options} {x : Snapshot}
  {objects : Objects}

theorem namesAtMost_some (file : String) : NamesAtMost (some file) file :=
  fun _ h => (Option.some.inj h).symm

theorem namesAtMost_none (file : String) : NamesAtMost none file := nofun

/-- The downstream names the files of its material. -/
theorem cites_downstream (d : Downstream) :
    ∀ op ∈ operations paths (Downstream.build d options), op.Cites (paths d.tls) := by
  intro op hop
  simp only [operations, Downstream.build, List.flatMap_cons, List.flatMap_nil, Part.operations,
    Downstream.rest, List.append_nil, List.mem_append, List.mem_cons, List.not_mem_nil,
    or_false] at hop
  rcases hop with rfl | ((rfl | rfl) | hop) | rfl | rfl | rfl
  · trivial
  · exact ⟨namesAtMost_some _, namesAtMost_some _⟩
  · trivial
  · rw [Downstream.intentions] at hop
    split at hop
    · rcases List.mem_cons.1 hop with rfl | hop
      · trivial
      · rw [List.mem_singleton.1 hop]
        trivial
    · exact absurd hop List.not_mem_nil
  · trivial
  · trivial
  · exact ⟨namesAtMost_none _, namesAtMost_none _⟩

/-- An upstream names the files of its material. -/
theorem cites_upstream (u : Upstream) :
    ∀ op ∈ upstreamOps paths options u, op.Cites (paths u.tls) := by
  intro op hop
  rw [upstreamOps_eq] at hop
  rcases List.mem_append.1 hop with hop | hop
  · simp only [Upstream.frame, List.mem_cons, List.not_mem_nil, or_false] at hop
    rcases hop with rfl | rfl | rfl | rfl | rfl
    · trivial
    · exact ⟨namesAtMost_none _, namesAtMost_none _⟩
    · trivial
    · trivial
    · trivial
  · obtain ⟨i, hi, rfl⟩ := List.mem_mapIdx.1 hop
    exact ⟨namesAtMost_some _, namesAtMost_some _⟩

/-- What stands of a listener names the files that its operations name. -/
theorem Stands.cites {l : Listener} {ops : List Operation} {files : Certificates.Paths}
    (hb : Builds l ops) (hops : ∀ op ∈ ops, op.Cites files) (h : Stands l ops objects)
    {k : ObjectKey} {v : Json} (hk : l.Owns k) (hv : objects.get? k = some v) : Cites files v := by
  obtain ⟨op, hop, hc⟩ := List.mem_map.1 ((h.get?_iff hb.toCreates hk).1 hv)
  exact (hops op hop).body hc

/-- **The objects of a store that shows a snapshot name the files of its
    material**, where it has only one. -/
theorem Shows.cites (hx : x.Valid) (huniform : x.Uniform) (h : Shows paths options x objects)
    {k : ObjectKey} {v : Json} (hk : Owned k) (hv : objects.get? k = some v) :
    Cites (paths x.downstream.tls) v := by
  obtain ⟨l, rfl | ⟨service, rfl⟩, hl⟩ := hk
  · exact h.downstream.cites (builds_downstream _ _) (cites_downstream _) hl hv
  · by_cases hservice : ∃ u ∈ x.upstreams, u.service = service
    · obtain ⟨u, hu, rfl⟩ := hservice
      obtain ⟨w, hw, hstands⟩ := h.upstreams u hu
      have hmaterial : w.tls = x.downstream.tls := (tls_of_same hw).trans
        (huniform _ (List.mem_cons_of_mem _ (List.mem_map_of_mem hu)))
      rw [← hmaterial]
      exact hstands.cites (builds_of_same (hx.unreserved u hu) hw) (cites_upstream w) hl hv
    · rw [h.others service (fun u hu heq => hservice ⟨u, hu, heq⟩) k hl] at hv
      exact nomatch hv

/-! ## Other files -/

theorem operations_congr {paths' : TlsMaterial → Certificates.Paths} {parts : List Part}
    (h : ∀ m ops, .sealed m ops ∈ parts → paths m = paths' m) :
    operations paths parts = operations paths' parts := by
  refine List.flatMap_congr fun p hp => ?_
  cases p with
  | plain op => rfl
  | sealed m ops => rw [Part.operations, Part.operations, h m ops hp]

theorem downstreamOps_congr {paths' : TlsMaterial → Certificates.Paths}
    (h : paths x.downstream.tls = paths' x.downstream.tls) :
    downstreamOps paths options x = downstreamOps paths' options x := by
  refine operations_congr fun m ops hmem => ?_
  rcases List.mem_cons.1 hmem with heq | hmem
  · exact nomatch heq
  · obtain ⟨rfl, -⟩ := Part.sealed.inj (List.mem_singleton.1 hmem)
    exact h

theorem upstreamOps_congr {paths' : TlsMaterial → Certificates.Paths} {u : Upstream}
    (h : paths u.tls = paths' u.tls) :
    upstreamOps paths options u = upstreamOps paths' options u := by
  rw [upstreamOps_eq, upstreamOps_eq, h]

/-- What is served with some files is served with any others that are the same
    for the materials of the snapshot. -/
theorem Converged.repath {paths' : TlsMaterial → Certificates.Paths}
    (h : Converged paths options x objects) (hpaths : ∀ m ∈ x.tlsMaterials, paths m = paths' m) :
    Converged paths' options x objects := by
  obtain ⟨served, hsame, hserves⟩ := h
  refine ⟨served, hsame, ?_, fun v hv => ?_, hserves.others⟩
  · have hmaterial : served.downstream.tls ∈ x.tlsMaterials := by
      rw [Plan.downstream_of_same hsame]
      exact List.mem_cons_self
    rw [← downstreamOps_congr (hpaths _ hmaterial)]
    exact hserves.downstream
  · obtain ⟨u, hu, hvu⟩ := (Plan.upstreams_of_same (Plan.sameUpstreams_of_same hsame)).2 v hv
    have hmaterial : v.tls ∈ x.tlsMaterials := by
      rw [tls_of_same hvu]
      exact List.mem_cons_of_mem _ (List.mem_map_of_mem hu)
    rw [← upstreamOps_congr (hpaths _ hmaterial)]
    exact hserves.upstreams v hv

end Reconcile

end MeshSync
