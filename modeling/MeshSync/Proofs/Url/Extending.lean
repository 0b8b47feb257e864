import Mathlib.Data.List.DropRight
import MeshSync.Proofs.Url.Referring

/-! # Paths put behind an address as text

    A path can be put behind the text of an address instead of being asked for
    beside it.  Everything is then read once more, so what comes of it depends
    on how the address ends.

    * `clean_append` - the blanks at the end of the address are inside now.
    * `takeApart_marked` - behind a question mark or a hash sign the path is not
      read as one.
    * `rootedPath_append` - dot segments and slashes of the address lead to a
      front before the path is reached. -/

namespace MeshSync.Url

/-! ## What counts of it -/

theorem visible_append (a b : List Char) : visible (a ++ b) = visible a ++ visible b :=
  List.filter_append a b

/-- Whether the last character of a text that can be seen is no blank. -/
def EndsVisibly (cs : List Char) : Prop :=
  ∀ c, (visible cs).getLast? = some c → isMargin c = false

/-- **Blanks in front of a path count**, those in front of the address do not. -/
theorem clean_append {t s : List Char} (hne : s ≠ [])
    (hhead : ∀ c, s.head? = some c → isMargin c = false)
    (hlast : ∀ c, s.getLast? = some c → isMargin c = false) :
    clean (String.ofList (t ++ s)) = visible (t.dropWhile isMargin) ++ visible s := by
  have hwhole : (t.dropWhile isMargin ++ s).rdropWhile isMargin = t.dropWhile isMargin ++ s := by
    rw [List.rdropWhile_eq_self_iff]
    intro h
    rw [List.getLast_append_of_right_ne_nil _ _ hne,
      hlast _ (List.getLast?_eq_some_getLast hne)]
    exact Bool.noConfusion
  have htrim : trim isMargin (t ++ s) =
      ((t ++ s).dropWhile isMargin).rdropWhile isMargin := rfl
  rw [clean, String.toList_ofList, htrim, dropWhile_append hhead, hwhole]
  exact visible_append _ s

/-- An address that ends in no blank counts up to its end. -/
theorem clean_of_end {t : List Char} (hend : EndsVisibly t) :
    clean (String.ofList t) = visible (t.dropWhile isMargin) := by
  let inner := (t.dropWhile isMargin).rdropWhile isMargin
  let tail := (t.dropWhile isMargin).rtakeWhile isMargin
  have hinner : inner ++ tail = t.dropWhile isMargin := List.rdropWhile_append_rtakeWhile
  have htail : visible tail = [] := by
    by_contra hne
    have hwhole : visible t = visible (t.takeWhile isMargin ++ inner) ++ visible tail := by
      rw [← visible_append, List.append_assoc, hinner, List.takeWhile_append_dropWhile]
    -- the last character of the tail would be the last that can be seen
    have hlast := hend ((visible tail).getLast hne) (by
      rw [hwhole, List.getLast?_append_of_ne_nil _ hne, List.getLast?_eq_some_getLast hne])
    have hmargin : isMargin ((visible tail).getLast hne) = true :=
      List.mem_rtakeWhile_imp (List.mem_filter.1 (List.getLast_mem hne)).1
    rw [hmargin] at hlast
    exact Bool.noConfusion hlast
  have htrim : trim isMargin t = inner := rfl
  rw [← hinner, visible_append, htail, List.append_nil, clean, String.toList_ofList, htrim]
  rfl

/-! ## Scheme, query and fragment -/

/-- An address has its scheme whatever stands behind it. -/
theorem scheme?_append {front s rest : List Char} {scheme : String} (hs : ∀ c ∈ s, c ≠ ':')
    (h : scheme? (front ++ s) = some (scheme, rest)) :
    ∃ behind, rest = behind ++ s ∧ ∀ s', scheme? (front ++ s') = some (scheme, behind ++ s') := by
  cases hcut : Text.cut (· = ':') front with
  | mk name behind =>
      cases behind with
      | none =>
          have hfront := Text.forall_not_of_cut (congrArg Prod.snd hcut)
          have hnone : ∀ c ∈ front ++ s, decide (c = ':') = false := by
            intro c hc
            rcases List.mem_append.1 hc with hc | hc
            · exact hfront c hc
            · exact decide_eq_false (hs c hc)
          rw [scheme?, Text.cut_of_forall_not hnone] at h
          cases h
      | some behind =>
          rw [scheme?, Text.cut_append_right hcut] at h
          dsimp only at h
          split at h
          · next hname =>
              obtain ⟨rfl, rfl⟩ := Prod.mk.inj (Option.some.inj h)
              refine ⟨behind, rfl, fun s' => ?_⟩
              rw [scheme?, Text.cut_append_right hcut]
              dsimp only
              rw [if_pos hname]
          · cases h

/-- Without a query and a fragment there are no marks. -/
theorem unmarked_of_takeApart {f : Family} {cs front : List Char}
    (h : takeApart f cs = (front, none, none)) : front = cs ∧ Unmarked cs := by
  rw [takeApart] at h
  cases hhash : Text.cut (· = '#') cs with
  | mk before fragment =>
      rw [hhash] at h
      dsimp only at h
      cases hmark : Text.cut (· = '?') before with
      | mk before' query =>
          rw [hmark] at h
          obtain ⟨rfl, hrest⟩ := Prod.mk.inj h
          obtain ⟨hquery, hfragment⟩ := Prod.mk.inj hrest
          obtain rfl := Option.map_eq_none_iff.1 hquery
          obtain rfl := Option.map_eq_none_iff.1 hfragment
          have hno := Text.forall_not_of_cut (congrArg Prod.snd hhash)
          rw [Text.cut_of_forall_not hno] at hhash
          obtain ⟨rfl, -⟩ := Prod.mk.inj hhash
          have hno' := Text.forall_not_of_cut (congrArg Prod.snd hmark)
          rw [Text.cut_of_forall_not hno'] at hmark
          obtain ⟨rfl, -⟩ := Prod.mk.inj hmark
          exact ⟨rfl, fun c hc => ⟨of_decide_eq_false (hno c hc), of_decide_eq_false (hno' c hc)⟩⟩

/-- **Behind a mark nothing is read as a path.** -/
theorem takeApart_marked {f : Family} {cs : List Char} (h : ¬ Unmarked cs) (s : List Char) :
    (takeApart f (cs ++ s)).1 = (takeApart f cs).1 ∧
      ((takeApart f (cs ++ s)).2.1.isSome || (takeApart f (cs ++ s)).2.2.isSome) = true := by
  cases hhash : Text.cut (· = '#') cs with
  | mk before fragment =>
      cases fragment with
      | some fragment =>
          rw [takeApart, takeApart, Text.cut_append_right hhash, hhash]
          exact ⟨rfl, Bool.or_true _⟩
      | none =>
          have hno := Text.forall_not_of_cut (congrArg Prod.snd hhash)
          cases hmark : Text.cut (· = '?') cs with
          | mk before' query =>
              cases query with
              | none =>
                  have hno' := Text.forall_not_of_cut (congrArg Prod.snd hmark)
                  exact absurd (fun c hc => ⟨of_decide_eq_false (hno c hc),
                    of_decide_eq_false (hno' c hc)⟩) h
              | some query =>
                  rw [takeApart, takeApart, Text.cut_prefix hno, Text.cut_of_forall_not hno]
                  dsimp only
                  rw [Text.cut_append_right hmark, hmark]
                  exact ⟨rfl, rfl⟩

/-! ## The authority -/

/-- An authority of the web is read the same way whatever follows. -/
theorem readAuthority_followed {scheme : String} {followed : Bool} {cs : List Char}
    {found : Authority × List Char} (h : readAuthority .web scheme followed cs = .ok found)
    (followed' : Bool) : readAuthority .web scheme followed' cs = .ok found := by
  cases hcut : cutUser cs with
  | mk user place =>
      rw [readAuthority, hcut] at h ⊢
      cases place with
      | nil =>
          dsimp only at h
          split at h
          · cases h
          · cases h
      | cons c place =>
          have hfollowed (b : Bool) :
              ¬ ((decide (user = some []) && (c :: place).isEmpty && b) = true) := by
            simp
          dsimp only at h ⊢
          rw [if_neg (hfollowed _)] at h ⊢
          exact h

/-- An empty place has no authority of the web. -/
theorem readAuthority_nil (scheme : String) (followed : Bool) :
    readAuthority .web scheme followed [] = .error .emptyHost := by
  cases followed <;> rfl

/-- What begins with a slash or is empty stands behind the authority. -/
theorem cutPath_append (f : Family) {s : List Char}
    (hs : ∀ c, s.head? = some c → f.isSlash c = true) (t : List Char) :
    cutPath f (t ++ s) = ((cutPath f t).1, (cutPath f t).2 ++ s) := by
  induction t with
  | nil =>
      cases s with
      | nil => rfl
      | cons c s => simp [cutPath, hs c rfl]
  | cons d t ih =>
      obtain ⟨hfront, hpath⟩ := Prod.mk.inj ih
      simp only [cutPath, List.cons_append, List.takeWhile_cons, List.dropWhile_cons]
      split
      · rw [hfront, hpath]
        rfl
      · rfl

/-- **The place of an address stays when a path is put behind it.** -/
theorem webPlace_append {scheme : String} {followed : Bool} {t s : List Char}
    {authority : Option Authority} {path : Path} (hs : ∀ c ∈ s, Family.isSlash .web c = true)
    (h : webPlace scheme followed (t ++ s) = .ok (authority, path)) :
    ∃ front, path = rootedPath .web (front ++ s) ∧
      ∀ followed' s', (∀ c, s'.head? = some c → Family.isSlash .web c = true) →
        webPlace scheme followed' (t ++ s') = .ok (authority, rootedPath .web (front ++ s')) := by
  obtain ⟨found, behind, hread, hauthority, hpath⟩ := webPlace_eq_ok_iff.1 h
  cases hdrop : t.dropWhile (Family.isSlash .web) with
  | nil =>
      -- nothing but slashes has no authority
      have hnil : (t ++ s).dropWhile (Family.isSlash .web) = [] := by
        rw [List.dropWhile_append, hdrop]
        exact List.dropWhile_eq_nil_iff.2 hs
      rw [hnil] at hread
      exact absurd hread (by
        rw [show (cutPath .web []).1 = [] from rfl, readAuthority_nil]
        exact nofun)
  | cons d place =>
      have hcut (s' : List Char) (hs' : ∀ c, s'.head? = some c → Family.isSlash .web c = true) :
          cutPath .web ((t ++ s').dropWhile (Family.isSlash .web)) =
            ((cutPath .web (d :: place)).1, (cutPath .web (d :: place)).2 ++ s') := by
        rw [List.dropWhile_append, hdrop, if_neg (by simp), cutPath_append .web hs']
      rw [hcut s fun c hc => hs c (List.mem_of_head? hc)] at hread hpath
      refine ⟨(cutPath .web (d :: place)).2, hpath, fun followed' s' hs' => ?_⟩
      rw [webPlace_eq_ok_iff, hcut s' hs']
      exact ⟨found, behind, readAuthority_followed hread _, hauthority, rfl⟩

/-! ## The path -/

/-- Where segments lead from a place on when more are to follow. -/
def Path.walk (place : List (List Char)) (segments : List (List Char)) : List (List Char) :=
  segments.foldl (fun place s =>
    if isAbove s then climb place else if isHere s then place else s :: place) place

/-- Segments in front of others only lead to where these begin. -/
theorem settleFrom_append {b : List (List Char)} (hb : b ≠ []) (a : List (List Char)) :
    ∀ place, Path.settleFrom place (a ++ b) = Path.settleFrom (Path.walk place a) b := by
  induction a with
  | nil => intro place; rfl
  | cons s a ih =>
      intro place
      have hne : a ++ b ≠ [] := List.append_ne_nil_of_right_ne_nil a hb
      rw [List.cons_append, Path.settleFrom, Path.walk, List.foldl_cons]
      · split
        · exact ih _
        · split
          · exact ih _
          · exact ih _
      · exact hne

/-- The last segment leads on like the others, and leaves an empty one behind if
    it is a dot segment. -/
theorem settleFrom_eq_walk {segments : List (List Char)} (hne : segments ≠ []) :
    Path.settle segments = (Path.walk [] segments).reverse ∨
      Path.settle segments = (Path.walk [] segments).reverse ++ [[]] := by
  obtain ⟨init, last, rfl⟩ := List.eq_nil_or_concat' segments |>.resolve_left hne
  rw [Path.settle, settleFrom_append (List.cons_ne_nil last []), Path.settleFrom, Path.walk,
    Path.walk, List.foldl_append, List.foldl_cons, List.foldl_nil]
  split
  · exact .inr List.reverse_cons
  · split
    · exact .inr List.reverse_cons
    · exact .inl rfl

theorem text_append (a b : List (List Char)) :
    Path.text (.segments (a ++ b)) = Path.text (.segments a) ++ Path.text (.segments b) :=
  List.flatMap_append

/-- **What an address leads to before a path that is put behind it**: the text of
    its own path, but for a slash at the end that only stands for this. -/
theorem rootedPath_append (front : List Char) : ∃ lead,
    (∀ cs, PlainPath cs → (rootedPath .web (front ++ '/' :: cs)).text = lead ++ '/' :: cs) ∧
      ((rootedPath .web front).text = lead ∨ (rootedPath .web front).text = lead ++ ['/']) := by
  cases front with
  | nil =>
      refine ⟨[], fun cs hcs => ?_, .inr rfl⟩
      show (Path.ofText .web cs).text = '/' :: cs
      rw [hcs.ofText, text_splitChars]
  | cons c front =>
      let parts := (Text.splitChars (Family.isSlash .web) front).map (encode EncodeSet.path)
      have hparts : parts ≠ [] := by
        simp [parts, Text.splitChars_ne_nil]
      refine ⟨Path.text (.segments (Path.walk [] parts).reverse), fun cs hcs => ?_, ?_⟩
      · have hbehind : (Text.splitChars (Family.isSlash .web) (front ++ '/' :: cs)).map
            (encode EncodeSet.path) = parts ++ Text.splitChars (· = '/') cs := by
          rw [Text.splitChars_separator (by decide), List.map_append, hcs.splitChars,
            map_encode_of_kept hcs.kept]
        show (Path.ofText .web (front ++ '/' :: cs)).text = _
        rw [Path.ofText, hbehind, Path.settle,
          settleFrom_append (Text.splitChars_ne_nil _ cs), settleFrom_still hcs.still,
          text_append, text_splitChars]
      · show Path.text (.segments (Path.settle parts)) = _ ∨
          Path.text (.segments (Path.settle parts)) = _
        rcases settleFrom_eq_walk hparts with hsettle | hsettle
        · exact .inl (by rw [hsettle])
        · exact .inr (by rw [hsettle, text_append]; rfl)

/-! ## The address and the path together -/

/-- A query that an address of the web leaves as it is. -/
def KeptQuery (query : Option (List Char)) : Prop :=
  ∀ q, query = some q → ∀ c ∈ q, isQueryChar c = true ∧ c ≠ '\''

/-- A plain path and a kept query with the mark between them. -/
structure PlainRequest (cs : List Char) (query : Option (List Char)) : Prop where
  path : PlainPath cs
  query : KeptQuery query

/-- The text of a plain request. -/
def requestText (cs : List Char) (query : Option (List Char)) : List Char :=
  '/' :: (cs ++ marked query)

namespace PlainRequest

variable {cs : List Char} {query : Option (List Char)}

/-- Everything in the text can be seen. -/
theorem visible (h : PlainRequest cs query) : ∀ c ∈ requestText cs query, 0x20 < c.toNat := by
  intro c hc
  rw [requestText, ← List.cons_append] at hc
  rcases List.mem_append.1 hc with hc | hc
  · exact h.path.visible c hc
  · cases query with
    | none => exact absurd hc List.not_mem_nil
    | some q =>
        rcases List.mem_cons.1 hc with rfl | hc
        · decide
        · exact isQueryChar.visible (h.query q rfl c hc).1

theorem isMargin (h : PlainRequest cs query) : ∀ c ∈ requestText cs query, isMargin c = false := by
  intro c hc
  have hlow := h.visible c hc
  rw [Url.isMargin, decide_eq_false_iff_not]
  omega

/-- The path ends at the mark. -/
theorem takeApart_append (h : PlainRequest cs query) {lead : List Char} (hlead : Unmarked lead) :
    takeApart .web (lead ++ requestText cs query) = (lead ++ '/' :: cs, query, none) := by
  have hboth : Unmarked (lead ++ '/' :: cs) := by
    intro c hc
    rcases List.mem_append.1 hc with hc | hc
    · exact hlead c hc
    · exact h.path.unmarked c hc
  have hkept : ∀ q, query = some q → ∀ c ∈ q, c ≠ '#' ∧ c.toNat < 0x80 ∧
      Family.querySet .web c = false := by
    intro q hq c hc
    obtain ⟨hkept, hquote⟩ := h.query q hq c hc
    obtain ⟨hlow, hset⟩ := isQueryChar_iff.1 hkept
    exact ⟨ne_of_class hkept (by decide), hlow,
      by simp [Family.querySet, EncodeSet.specialQuery, hset, hquote]⟩
  have htext : lead ++ requestText cs query = (lead ++ '/' :: cs) ++ marked query := by
    simp [requestText]
  rw [htext, takeApart_kept .web hboth hkept]

end PlainRequest

variable {address : String} {u : Url}

/-- The text of an address without the slashes at its end. -/
def trunk (address : String) : List Char := address.toList.rdropWhile (· = '/')

/-- The slashes at the end of an address. -/
def slashes (address : String) : List Char := address.toList.rtakeWhile (· = '/')

theorem trunk_append_slashes (address : String) :
    trunk address ++ slashes address = address.toList :=
  List.rdropWhile_append_rtakeWhile

theorem eq_slash_of_mem {c : Char} (h : c ∈ slashes address) : c = '/' :=
  of_decide_eq_true (List.mem_rtakeWhile_imp (p := (· = '/')) h)

/-- There is nothing between slashes. -/
theorem eq_nil_of_mem_slashes {cs s : List Char} (h : ∀ c ∈ cs, c = '/')
    (hs : s ∈ Text.splitChars (· = '/') cs) : s = [] := by
  induction cs with
  | nil => exact List.mem_singleton.1 hs
  | cons c cs ih =>
      have hc : decide (c = '/') = true := decide_eq_true (h c List.mem_cons_self)
      have hsplit : Text.splitChars (· = '/') (c :: cs) = [] :: Text.splitChars (· = '/') cs :=
        Text.splitChars_append (a := []) (fun x hx => absurd hx List.not_mem_nil) hc
      rw [hsplit] at hs
      rcases List.mem_cons.1 hs with rfl | hs
      · rfl
      · exact ih (fun x hx => h x (List.mem_cons_of_mem _ hx)) hs

/-- Slashes are a plain path. -/
theorem plainPath_of_slashes {cs : List Char} (h : ∀ c ∈ cs, c = '/') : PlainPath cs := by
  refine ⟨⟨?_, ?_⟩, ?_⟩
  · intro c hc
    rw [h c hc]
    decide
  · intro s hs
    rw [eq_nil_of_mem_slashes h hs]
    decide
  · intro c hc
    rw [h c hc]
    decide

/-- What counts of an address that ends in no blank. -/
theorem clean_address (hend : EndsVisibly address.toList) :
    clean address = visible ((trunk address).dropWhile isMargin) ++ slashes address := by
  have htext : String.ofList (trunk address ++ slashes address) = address := by
    rw [trunk_append_slashes, String.ofList_toList]
  by_cases hnil : slashes address = []
  · have htrunk := trunk_append_slashes address
    rw [hnil, List.append_nil] at htrunk
    rw [hnil, List.append_nil, htrunk, ← clean_of_end hend, String.ofList_toList]
  · have hslash : ∀ c ∈ slashes address, 0x20 < c.toNat ∧ isMargin c = false := by
      intro c hc
      rw [eq_slash_of_mem hc]
      decide
    conv => lhs; rw [← htext]
    rw [clean_append hnil (fun c hc => (hslash c (List.mem_of_head? hc)).2)
      (fun c hc => (hslash c (List.mem_of_getLast? hc)).2),
      visible_eq_self fun c hc => (hslash c hc).1]

/-- **An address and what is put behind it are read alike** up to where the two
    differ. -/
theorem exists_rest (h : parse address = .ok u) (hweb : u.family = .web)
    (hend : EndsVisibly address.toList) :
    ∃ rest front, takeApart .web (rest ++ slashes address) = (front, u.query, u.fragment) ∧
      webPlace u.scheme (u.query.isSome || u.fragment.isSome) front = .ok (u.authority, u.path) ∧
      ∀ {cs query front' query' fragment' authority path}, PlainRequest cs query →
        takeApart .web (rest ++ requestText cs query) = (front', query', fragment') →
        webPlace u.scheme (query'.isSome || fragment'.isSome) front' = .ok (authority, path) →
        parse (String.ofList (trunk address ++ requestText cs query)) =
          .ok ⟨u.scheme, authority, path, query', fragment'⟩ := by
  obtain ⟨whole, front, hscheme, hparts, hplace⟩ := parse_eq_ok_iff.1 h
  rw [clean_address hend] at hscheme
  rw [hweb] at hparts hplace
  obtain ⟨rest, rfl, hrest⟩ := scheme?_append
    (fun c hc => by rw [eq_slash_of_mem hc]; decide) hscheme
  refine ⟨rest, front, hparts, hplace, ?_⟩
  intro cs query front' query' fragment' authority path hrequest hparts' hplace'
  have hmargin := hrequest.isMargin
  have hne : requestText cs query ≠ [] := List.cons_ne_nil _ _
  -- neither end of the request is trimmed, so that the scheme is read off the same front
  have hfamily : Family.ofScheme u.scheme = .web := hweb
  refine parse_eq_ok_iff.2 ⟨rest ++ requestText cs query, front', ?_, ?_, ?_⟩
  · rw [clean_append hne (fun c hc => hmargin c (List.mem_of_head? hc))
      (fun c hc => hmargin c (List.mem_of_getLast? hc)),
      visible_eq_self hrequest.visible]
    exact hrest _
  · rw [family, hfamily]
    exact hparts'
  · rw [family, hfamily]
    exact hplace'

/-- **Putting a plain request behind an address without a query and a fragment**:
    the request is for the scheme and the authority of the address, and behind
    what its path leads to stands the path of the request.  That front is the
    path of the address without the slashes that its text ends in, or without
    one that the text leaves out. -/
theorem parse_append (h : parse address = .ok u) (hweb : u.family = .web)
    (hend : EndsVisibly address.toList) (hquery : u.query = none)
    (hfragment : u.fragment = none) :
    ∃ lead, (u.path.text = lead ++ slashes address ∨
        slashes address = [] ∧ u.path.text = lead ++ ['/']) ∧
      ∀ cs query, PlainRequest cs query → ∃ v,
        parse (String.ofList (trunk address ++ requestText cs query)) = .ok v ∧
          v.scheme = u.scheme ∧ v.authority = u.authority ∧ v.path.text = lead ++ '/' :: cs ∧
          v.query = query ∧ v.fragment = none := by
  obtain ⟨rest, front, hparts, hplace, hrest⟩ := exists_rest h hweb hend
  rw [hquery, hfragment] at hparts hplace
  obtain ⟨rfl, hmarks⟩ := unmarked_of_takeApart hparts
  have hslash : ∀ c ∈ slashes address, Family.isSlash .web c = true := by
    intro c hc
    rw [eq_slash_of_mem hc]
    decide
  obtain ⟨front, hpath, hbehind⟩ := webPlace_append hslash hplace
  obtain ⟨lead, hplain, hself⟩ := rootedPath_append front
  refine ⟨lead, ?_, fun cs query hrequest => ?_⟩
  · -- an address that ends in no slash may have got one with its empty path
    cases hslashes : slashes address with
    | nil =>
        rw [hpath, hslashes, List.append_nil, List.append_nil]
        exact hself.imp_right fun hself => ⟨rfl, hself⟩
    | cons c cs =>
        have hall : ∀ d ∈ c :: cs, d = '/' := by
          intro d hd
          rw [← hslashes] at hd
          exact eq_slash_of_mem hd
        obtain rfl := hall c List.mem_cons_self
        have hcs : PlainPath cs :=
          plainPath_of_slashes fun d hd => hall d (List.mem_cons_of_mem _ hd)
        rw [hpath, hslashes]
        exact .inl (hplain cs hcs)
  · have hmarks : Unmarked rest := fun c hc => hmarks c (List.mem_append_left _ hc)
    have hlead : ∀ c, ('/' :: cs).head? = some c → Family.isSlash .web c = true := by
      intro c hc
      rw [← Option.some.inj hc]
      decide
    exact ⟨_, hrest hrequest (hrequest.takeApart_append hmarks) (hbehind _ _ hlead), rfl, rfl,
      hplain cs hrequest.path, rfl, rfl⟩

/-- **Behind a query or a fragment the path is lost**: every request is for what
    the address is about. -/
theorem parse_append_marked (h : parse address = .ok u) (hweb : u.family = .web)
    (hend : EndsVisibly address.toList) (hmarked : ¬ (u.query = none ∧ u.fragment = none))
    {cs : List Char} {query : Option (List Char)} (hrequest : PlainRequest cs query) :
    ∃ v, parse (String.ofList (trunk address ++ requestText cs query)) = .ok v ∧
      v.scheme = u.scheme ∧ v.authority = u.authority ∧ v.path = u.path := by
  obtain ⟨rest, front, hparts, hplace, hrest⟩ := exists_rest h hweb hend
  have hrestMarked : ¬ Unmarked rest := by
    intro hrest
    have hwhole : Unmarked (rest ++ slashes address) := by
      intro c hc
      rcases List.mem_append.1 hc with hc | hc
      · exact hrest c hc
      · rw [eq_slash_of_mem hc]
        decide
    rw [takeApart_unmarked .web hwhole] at hparts
    obtain ⟨hquery, hfragment⟩ := Prod.mk.inj (Prod.mk.inj hparts).2
    exact hmarked ⟨hquery.symm, hfragment.symm⟩
  obtain ⟨hfront, hsome⟩ := takeApart_marked (f := .web) hrestMarked (slashes address)
  obtain ⟨hfront', hsome'⟩ := takeApart_marked (f := .web) hrestMarked (requestText cs query)
  rw [hparts] at hfront hsome
  dsimp only at hfront hsome
  rw [hsome, hfront, ← hfront', ← hsome'] at hplace
  exact ⟨_, hrest hrequest rfl hplace, rfl, rfl, rfl⟩

end MeshSync.Url
