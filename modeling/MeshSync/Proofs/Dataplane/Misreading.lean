import MeshSync.Proofs.Dataplane.Routing
import MeshSync.Proofs.Url.Verbatim

/-! # What is read of any request for an object

    `Routing` says how requests are read whose names come out as they went in.
    Here a name may be any text, and the question is what follows from a
    request having been read as it was meant: from a path that is read to
    delete an object with a name, and from a query that is read to give an
    object an owner. -/

namespace MeshSync.Dataplane

open Url

/-- A request that stages a change lies in the configuration, and the change is
    read of the rest of its path, its query and its body. -/
theorem staged_cases {r : Request} {id : String} {c : Change}
    (h : Command.ofRequest r = .ok (.stage id c)) :
    ∃ url rest, Url.parse s!"memory://store{r.path}" = .ok url ∧
      url.pathText = s!"{configurationPath}/" ++ rest ∧
      Command.change r.method rest (Command.parent? url.queryPairs) r.body = .ok c := by
  rw [Command.ofRequest] at h
  split at h
  · cases h
  rename_i url hurl
  rw [Command.ofRoute] at h
  split at h
  · rw [Command.ofOpening] at h
    split at h <;> cases h
  split at h
  · -- a request for a transaction itself stages nothing
    rename_i name _
    cases hm : r.method <;> rw [hm] at h <;> cases h
  split at h
  · rw [Command.ofRead] at h
    split at h
    · cases h
    · split at h
      · cases h
      · split at h <;> cases h
  rw [Command.ofWrite] at h
  split at h
  · cases h
  rename_i rest hrest
  split at h
  · cases h
  rename_i tid _
  cases hchange : Command.change r.method rest (Command.parent? url.queryPairs) r.body with
  | error e =>
      rw [hchange] at h
      cases h
  | ok d =>
      rw [hchange] at h
      cases h
      exact ⟨url, rest, hurl, Text.eq_append_of_after? hrest, hchange⟩

/-- A path that deletes an object ends in its collection and name. -/
theorem change_delete_cases {m : Method} {rest : String} {parent : Option String}
    {body : Option Json} {k : ObjectKey} (h : Command.change m rest parent body = .ok (.delete k)) :
    rest = k.kind ++ "/" ++ k.name := by
  rw [Command.change.eq_def] at h
  cases hcut : Text.cut (· = '/') rest.toList with
  | mk kind _ =>
      rw [hcut] at h
      dsimp only at h
      split at h
      · split at h
        · cases h
        · split at h <;> cases h
      · split at h <;> cases h
      · cases h
        obtain ⟨c, hc, hrest⟩ := Text.eq_append_of_cut hcut
        rw [of_decide_eq_true hc] at hrest
        show rest = String.ofList kind ++ "/" ++ String.ofList _
        rw [← String.toList_inj, hrest]
        simp
      · cases h

/-- What creates an object is posted to its collection, and its query names the
    owner. -/
theorem change_create_cases {m : Method} {rest : String} {parent : Option String}
    {body : Option Json} {k : ObjectKey} {v : Json}
    (h : Command.change m rest parent body = .ok (.create k v)) :
    k.kind = rest ∧ k.parent = parent := by
  rw [Command.change.eq_def] at h
  cases hcut : Text.cut (· = '/') rest.toList with
  | mk kind name =>
      rw [hcut] at h
      dsimp only at h
      split at h
      · split at h
        · cases h
        · split at h
          · cases h
          · cases h
            exact ⟨rfl, rfl⟩
      · split at h <;> cases h
      · cases h
      · cases h

/-! ## Deleting -/

/-- The configuration's path behind its first slash. -/
def configurationChars : List Char := "v1/services/haproxy/configuration".toList

theorem toList_configurationPath : configurationPath.toList = '/' :: configurationChars := by decide

theorem configurationChars_kept : ∀ c ∈ configurationChars, isPathChar c = true :=
  List.all_eq_true.1 (by decide)

/-- The path of a request that deletes an object, behind its first slash and up
    to its query. -/
def removal (collection name : String) : List Char :=
  configurationChars ++ '/' :: (collection.toList ++ '/' :: name.toList)

theorem path_remove (id collection name query : String) :
    (Operation.remove id collection name query).path.toList =
      '/' :: (removal collection name ++ '?' :: (query ++ "transaction_id=" ++ id).toList) := by
  have hpath : (Operation.remove id collection name query).path =
      configurationPath ++ ("/" ++ (collection ++ ("/" ++ (name ++ ("?" ++
        (query ++ "transaction_id=" ++ id)))))) := by
    show s!"{configurationPath}/{collection}/{name}?{query}transaction_id={id}" = _
    simp only [String.append_assoc]
    rfl
  have hslash : "/".toList = ['/'] := rfl
  have hmark : "?".toList = ['?'] := rfl
  generalize query ++ "transaction_id=" ++ id = q at hpath
  rw [hpath, removal, String.toList_append, toList_configurationPath]
  simp only [String.toList_append, hslash, hmark, List.append_assoc, List.cons_append,
    List.nil_append]

/-- An identifier that stands for itself does not end in a blank. -/
theorem margin_of_plain {id query : String} (hid : PlainSegment id.toList) :
    ∀ c, (query ++ "transaction_id=" ++ id).toList.getLast? = some c → isMargin c = false := by
  intro c hc
  rw [String.toList_append, List.getLast?_append] at hc
  have hvisible : 0x20 < c.toNat := by
    cases hlast : id.toList.getLast? with
    | none =>
        rw [hlast, Option.none_or, String.toList_append, List.getLast?_append] at hc
        rw [← Option.some.inj hc]
        decide
    | some d =>
        rw [hlast] at hc
        rw [← Option.some.inj hc]
        exact isQueryChar.visible (isPathChar.query
          (isUnreserved.path (hid.unreserved d (List.mem_of_getLast? hlast))))
  rw [isMargin, decide_eq_false_iff_not]
  omega

section

variable {id id' collection name query : String} {k : ObjectKey}

/-- The path that a deletion was read of, as it came out of the reader. -/
theorem text_of_deleted {r : Request} (h : Command.ofRequest r = .ok (.stage id (.delete k))) :
    ∃ url, Url.parse s!"memory://store{r.path}" = .ok url ∧
      url.path.text = '/' :: removal k.kind k.name := by
  obtain ⟨url, rest, hurl, htext, hchange⟩ := staged_cases h
  refine ⟨url, hurl, ?_⟩
  have htext := congrArg String.toList htext
  have hslash : "/".toList = ['/'] := rfl
  rw [change_delete_cases hchange, Url.pathText, String.toList_ofList] at htext
  rw [htext, removal]
  show (configurationPath ++ "/" ++ (k.kind ++ "/" ++ k.name)).toList = _
  simp only [String.toList_append, toList_configurationPath, hslash, List.append_assoc,
    List.cons_append, List.nil_append]

/-- **A name that a request was read to delete is kept by paths**, whatever name
    the request was made of. -/
theorem kept_of_deleted (hid : PlainSegment id.toList)
    (h : Command.ofRequest (Operation.remove id collection name query) =
      .ok (.stage id' (.delete k))) : ∀ c ∈ k.name.toList, isPathChar c = true := by
  obtain ⟨url, hurl, htext⟩ := text_of_deleted h
  rw [parse_store (path_remove id collection name query)
    (margin_of_query (margin_of_plain hid))] at hurl
  intro c hc
  have hmem : c ∈ url.path.text := by
    rw [htext, removal]
    simp [hc]
  rw [← Except.ok.inj hurl] at hmem
  exact ofText_kept hmem

/-- What comes of a path whose name paths keep: it is not longer than it was, and
    the name stands in it as it is unless it is shorter. -/
theorem stretch_of_deleted (hid : PlainSegment id.toList)
    (hcollection : PlainSegment collection.toList)
    (hname : ∀ c ∈ name.toList, isPathChar c = true)
    (h : Command.ofRequest (Operation.remove id collection name query) =
      .ok (.stage id' (.delete k))) :
    (removal k.kind k.name).length ≤ (removal collection name).length ∧
      ((removal collection name).length ≤ (removal k.kind k.name).length →
        Stretch name.toList) := by
  obtain ⟨url, hurl, htext⟩ := text_of_deleted h
  have hkept : ∀ c ∈ removal collection name, isPathChar c = true := by
    intro c hc
    rcases List.mem_append.1 hc with hc | hc
    · exact configurationChars_kept c hc
    · rcases List.mem_cons.1 hc with rfl | hc
      · decide
      · rcases List.mem_append.1 hc with hc | hc
        · exact isUnreserved.path (hcollection.unreserved c hc)
        · rcases List.mem_cons.1 hc with rfl | hc
          · decide
          · exact hname c hc
  obtain ⟨fragment, hparse⟩ :=
    parse_front hkept (path_remove id collection name query) (margin_of_plain hid)
  rw [hparse] at hurl
  obtain rfl := Except.ok.inj hurl
  have hlength : (Path.ofText .other (removal collection name)).text.length =
      (removal k.kind k.name).length + 1 := congrArg List.length htext
  have hle := length_ofText_le hkept
  -- a path can only get shorter when it is read; where it does not, nothing of it was changed
  refine ⟨by omega, fun hlonger => ?_⟩
  have hstretch : Stretch (removal collection name) := stretch_of_length hkept (by omega)
  exact hstretch.of_append.of_append

end

/-! ## Creating -/

/-- The path of a request that creates an object, behind its first slash and up
    to its query. -/
def posting (collection : String) : List Char := configurationChars ++ '/' :: collection.toList

theorem path_post (id collection query : String) (body : Json) :
    (Operation.post id collection query body).path.toList =
      '/' :: (posting collection ++ '?' :: (query ++ "transaction_id=" ++ id).toList) := by
  have hpath : (Operation.post id collection query body).path =
      configurationPath ++ ("/" ++ (collection ++ ("?" ++ (query ++ "transaction_id=" ++ id)))) := by
    show s!"{configurationPath}/{collection}?{query}transaction_id={id}" = _
    simp only [String.append_assoc]
    rfl
  have hslash : "/".toList = ['/'] := rfl
  have hmark : "?".toList = ['?'] := rfl
  generalize query ++ "transaction_id=" ++ id = q at hpath
  rw [hpath, posting, String.toList_append, toList_configurationPath]
  simp only [String.toList_append, hslash, hmark, List.append_assoc, List.cons_append,
    List.nil_append]

section

variable {id id' collection query : String} {k : ObjectKey} {body v : Json}

/-- **What a request creates lies in its collection**, and its query gives it an
    owner, whatever stands in the query. -/
theorem posted_cases (hid : PlainSegment id.toList) (hcollection : PlainSegment collection.toList)
    (h : Command.ofRequest (Operation.post id collection query body) =
      .ok (.stage id' (.create k v))) :
    k.kind = collection ∧ k.parent = Command.parent? (Form.pairs (encode EncodeSet.query
      (Text.cut (· = '#') (visible (query ++ "transaction_id=" ++ id).toList)).1)) := by
  obtain ⟨url, rest, hurl, htext, hchange⟩ := staged_cases h
  obtain ⟨hkind, hparent⟩ := change_create_cases hchange
  have hstretch : Stretch (posting collection) := by
    have hbase : Stretch configurationChars := by
      have hstill : ∀ s ∈ Text.splitChars (· = '/') configurationChars, Path.isDot s = false := by
        decide
      exact ⟨configurationChars_kept, hstill⟩
    exact hbase.append hcollection.stretch
  obtain ⟨fragment, hparse⟩ :=
    parse_front hstretch.kept (path_post id collection query body) (margin_of_plain hid)
  rw [hparse] at hurl
  obtain rfl := Except.ok.inj hurl
  refine ⟨?_, hparent⟩
  have htext := congrArg String.toList htext
  rw [Url.pathText, String.toList_ofList, hstretch.ofText] at htext
  have hslash : "/".toList = ['/'] := rfl
  have hread : '/' :: posting collection = (configurationPath ++ "/" ++ rest).toList :=
    (Text.join_splitChars '/' (posting collection)).symm.trans htext
  simp only [posting, String.toList_append, toList_configurationPath, hslash, List.append_assoc,
    List.cons_append, List.nil_append] at hread
  have hrest := List.append_cancel_left (List.cons.inj hread).2
  rw [hkind]
  exact (String.toList_inj.1 (List.cons.inj hrest).2).symm

/-- An owner that is a frontend stands in the query under that type. -/
theorem mem_of_parent {ps : List (String × String)} {name : String}
    (hsome : ∃ value, ("frontend", value) ∈ ps)
    (h : Command.parent? ps = some (Owner.frontend name).key.owner) : ("frontend", name) ∈ ps := by
  obtain ⟨value, hvalue⟩ := hsome
  have hlookup : (Command.parameter? ps "frontend").isSome = true :=
    List.lookup_isSome_iff.2 ⟨_, List.mem_reverse.2 hvalue, beq_self_eq_true _⟩
  obtain ⟨last, hlast⟩ := Option.isSome_iff_exists.1 hlookup
  obtain ⟨front, back, hps, -⟩ := List.lookup_eq_some_iff.1 hlast
  have hmem : ("frontend", last) ∈ ps := by
    rw [← List.mem_reverse, hps]
    exact List.mem_append_right _ List.mem_cons_self
  rw [Command.parent?, hlast] at h
  have howner : "frontends" ++ "/" ++ last = "frontends" ++ "/" ++ name := by
    have hread : s!"frontends/{last}" = "frontends" ++ "/" ++ last := by
      show "frontends/" ++ last = _
      rw [show "frontends/" = "frontends" ++ "/" by decide]
    rw [← hread]
    exact Option.some.inj h
  have howner := congrArg String.toList howner
  rw [String.toList_append, String.toList_append (t := name)] at howner
  rwa [← String.toList_inj.1 (List.append_cancel_left howner)]

/-- **A name that comes out of a query as an owner is not cut and not decoded.** -/
theorem whole_of_owned {name : String} (hname : ∀ c ∈ name.toList, isPathChar c = true)
    (hid : PlainSegment id.toList) (hcollection : PlainSegment collection.toList)
    (h : Command.ofRequest (Operation.post id collection s!"frontend={name}&" body) =
      .ok (.stage id' (.create k v)))
    (hparent : k.parent = some (Owner.frontend name).key.owner) :
    (∀ c ∈ name.toList, c ≠ '&') ∧ Form.decode name.toList = name := by
  have hpairs : Form.PlainPairs [("transaction_id", id)] := by
    simpa [Form.PlainPairs] using
      ⟨(by decide : Unreserved "transaction_id"), Form.Literal.of_unreserved hid.unreserved⟩
  have htype : Unreserved "frontend" := by decide
  have hquery : (s!"frontend={name}&" ++ "transaction_id=" ++ id).toList =
      Form.plainPair "frontend" name ++ '&' :: Form.plainQuery [("transaction_id", id)] := by
    show ("frontend=" ++ name ++ "&" ++ "transaction_id=" ++ id).toList = _
    simp [Form.plainPair, Form.plainQuery]
  have hkept : ∀ c ∈ Form.plainPair "frontend" name ++
      '&' :: Form.plainQuery [("transaction_id", id)], isQueryChar c = true := by
    intro c hc
    rcases List.mem_append.1 hc with hc | hc
    · rcases List.mem_append.1 hc with hc | hc
      · exact (Form.Literal.of_unreserved htype).kept c hc
      · rcases List.mem_cons.1 hc with rfl | hc
        · decide
        · exact isPathChar.query (hname c hc)
    · rcases List.mem_cons.1 hc with rfl | hc
      · decide
      · exact Form.plainQuery_isQueryChar hpairs c hc
  obtain ⟨-, hread⟩ := posted_cases hid hcollection h
  rw [hquery, visible_eq_self fun c hc => isQueryChar.visible (hkept c hc),
    Text.cut_of_forall_not fun c hc => decide_eq_false (ne_of_class (hkept c hc) (by decide)),
    encode_eq_self fun c hc => isQueryChar_iff.1 (hkept c hc), hparent] at hread
  have hmem := mem_of_parent (Form.exists_mem_pairs name _ htype) hread.symm
  refine Form.whole_of_mem_pairs htype (fun c hc => (isPathChar_iff.1 (hname c hc)).1) hpairs ?_ hmem
  intro p hp
  rw [List.mem_singleton.1 hp]
  exact (by decide : "transaction_id" ≠ "frontend")

end

end MeshSync.Dataplane
