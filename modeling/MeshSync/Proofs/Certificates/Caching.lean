import Mathlib.Data.List.Nodup
import Mathlib.Data.List.Perm.Subperm
import MeshSync.Proofs.Certificates.Bundles

/-! # What is cached and for how long

    A store that was opened on an empty directory and asked for files, and told
    what is in use, any number of times (`Store.calls`).  Beside the files of
    the cached materials the directory holds nothing (`Store.Tidy`).  A new
    material makes others go, the oldest first that are not in use, one by one
    as long as there are too many and one can go (`Rounds`); so what is in use
    stays, whatever its number, and what is cached keeps its files until it
    goes.  All of it together is `Store.calls_caching`. -/

namespace MeshSync.Certificates

/-! ## Rounds of eviction -/

/-- One round of eviction, over the cached materials with the newest last: of
    too many, the oldest goes that is not in use and not the newest. -/
structure Round (committed : List TlsMaterial) (ks : List Kept) (old : Kept) (ks' : List Kept) :
    Prop where
  crowded : capacity < ks.length
  first : ∃ front back, ks = front ++ old :: back ∧ ks' = front ++ back ∧ back ≠ [] ∧
    ∀ k ∈ front, k.material ∈ committed
  unused : old.material ∉ committed

/-- Rounds of eviction until there can be no more, with what goes in them. -/
inductive Rounds (committed : List TlsMaterial) : List Kept → List Kept → List Kept → Prop where
  | done {ks : List Kept} (h : ∀ old ks', ¬ Round committed ks old ks') : Rounds committed ks [] ks
  | turn {ks ks' ks'' : List Kept} {old : Kept} {gone : List Kept}
      (h : Round committed ks old ks') (rest : Rounds committed ks' gone ks'') :
      Rounds committed ks (old :: gone) ks''

/-- Where a list is cut before the first element that lacks a property, is in
    the list itself. -/
theorem cut_unique {α : Type} {p : α → Prop} {x x' : α} {front front' back back' : List α}
    (h : front ++ x :: back = front' ++ x' :: back') (hfront : ∀ y ∈ front, p y) (hx : ¬ p x)
    (hfront' : ∀ y ∈ front', p y) (hx' : ¬ p x') :
    front = front' ∧ x = x' ∧ back = back' := by
  induction front generalizing front' with
  | nil =>
      cases front' with
      | nil => exact ⟨rfl, List.cons.inj h⟩
      | cons y ys =>
          have hy : x = y := (List.cons.inj h).1
          exact absurd (hfront' y List.mem_cons_self) (hy ▸ hx)
  | cons z zs ih =>
      cases front' with
      | nil =>
          have hz : z = x' := (List.cons.inj h).1
          exact absurd (hfront z List.mem_cons_self) (hz ▸ hx')
      | cons y ys =>
          obtain ⟨rfl, htail⟩ := List.cons.inj h
          obtain ⟨rfl, hrest⟩ := ih htail (fun y hy => hfront y (List.mem_cons_of_mem _ hy))
            fun y hy => hfront' y (List.mem_cons_of_mem _ hy)
          exact ⟨rfl, hrest⟩

namespace Round

variable {committed : List TlsMaterial} {ks ks' ks'' : List Kept} {old old' newest : Kept}

/-- A round can go one way only. -/
theorem unique (h : Round committed ks old ks') (h' : Round committed ks old' ks'') :
    old = old' ∧ ks' = ks'' := by
  obtain ⟨-, ⟨front, back, hks, rfl, -, hfront⟩, hunused⟩ := h
  obtain ⟨-, ⟨front', back', hks', rfl, -, hfront'⟩, hunused'⟩ := h'
  obtain ⟨rfl, hold, rfl⟩ := cut_unique (p := fun k : Kept => k.material ∈ committed)
    (hks.symm.trans hks') hfront hunused hfront' hunused'
  exact ⟨hold, rfl⟩

/-- What goes in a round is not the newest. -/
theorem mem (h : Round committed (ks ++ [newest]) old ks') : old ∈ ks := by
  obtain ⟨-, ⟨front, back, hks, -, hback, -⟩, -⟩ := h
  obtain ⟨back, last, rfl⟩ := (List.eq_nil_or_concat' back).resolve_left hback
  have hfront : ks ++ [newest] = (front ++ old :: back) ++ [last] := by
    rw [hks, List.append_assoc]
    rfl
  rw [List.append_inj_left' hfront rfl]
  exact List.mem_append_right _ List.mem_cons_self

end Round

/-- Eviction ends in one way only. -/
theorem Rounds.unique {committed : List TlsMaterial} {ks end₁ end₂ gone₁ gone₂ : List Kept}
    (h : Rounds committed ks gone₁ end₁) (h' : Rounds committed ks gone₂ end₂) :
    gone₁ = gone₂ ∧ end₁ = end₂ := by
  induction h generalizing gone₂ end₂ with
  | done hend =>
      cases h' with
      | done _ => exact ⟨rfl, rfl⟩
      | turn hround _ => exact absurd hround (hend _ _)
  | turn hround _ ih =>
      cases h' with
      | done hend => exact absurd hround (hend _ _)
      | turn hround' hrest =>
          obtain ⟨rfl, rfl⟩ := hround.unique hround'
          obtain ⟨rfl, rfl⟩ := ih hrest
          exact ⟨rfl, rfl⟩

/-- Whether a cached material is not in use. -/
def unused (committed : List TlsMaterial) (k : Kept) : Bool := !committed.contains k.material

/-- A cached material is unused just if it is none of those in use. -/
theorem unused_iff {committed : List TlsMaterial} {k : Kept} :
    unused committed k = true ↔ k.material ∉ committed := by
  simp [unused]

namespace Store

variable {s s' : Store} {m : TlsMaterial} {k : Kept} {committed : List TlsMaterial}
variable {ks rest : List Kept} {old : Kept}

/-- Where no oldest unused one is found, all are in use. -/
theorem used_of_oldestUnused (h : oldestUnused committed ks = none) :
    ∀ k ∈ ks, k.material ∈ committed := by
  induction ks with
  | nil => exact nofun
  | cons k ks ih =>
      rw [oldestUnused] at h
      split at h
      · next hused =>
          intro k' hk'
          rcases List.mem_cons.1 hk' with rfl | hk'
          · exact List.contains_iff_mem.1 hused
          · exact ih (Option.map_eq_none_iff.1 h) k' hk'
      · exact absurd h (Option.some_ne_none _)

/-- **What goes is the oldest that is not in use**, as much of it as is asked
    for. -/
theorem evict_gone (committed : List TlsMaterial) (excess : Nat) (ks : List Kept) :
    (evict committed excess ks).2 = (ks.filter (unused committed)).take excess := by
  induction excess generalizing ks with
  | zero => rfl
  | succ excess ih =>
      rw [evict]
      split
      · next hnone =>
          have hused := used_of_oldestUnused hnone
          have hfilter : ks.filter (unused committed) = [] := by
            refine List.filter_eq_nil_iff.2 fun k hk hunused => ?_
            exact unused_iff.1 hunused (hused k hk)
          rw [hfilter, List.take_nil]
      · next old rest hold =>
          obtain ⟨front, back, rfl, rfl, hfront, hunused⟩ := oldestUnused_split hold
          have hnone : front.filter (unused committed) = [] := by
            refine List.filter_eq_nil_iff.2 fun k hk hunused => ?_
            exact unused_iff.1 hunused (hfront k hk)
          dsimp only
          rw [ih, List.filter_append, List.filter_append, hnone, List.nil_append, List.nil_append,
            List.filter_cons_of_pos (unused_iff.2 hunused), List.take_succ_cons]

/-- Taking out one more is taking it out of its place. -/
theorem filter_not_mem_cons {front back gone : List Kept} (h : old ∉ front ++ back) :
    (front ++ old :: back).filter (· ∉ old :: gone) = (front ++ back).filter (· ∉ gone) := by
  rw [List.filter_append, List.filter_cons_of_neg (by simp), ← List.filter_append]
  refine List.filter_congr fun k hk => ?_
  have hne : k ≠ old := fun heq => h (heq ▸ hk)
  simp [hne]

/-- What stays is what does not go, in order. -/
theorem evict_stay (committed : List TlsMaterial) (excess : Nat) (h : ks.Nodup) :
    (evict committed excess ks).1 = ks.filter (· ∉ (evict committed excess ks).2) := by
  induction excess generalizing ks with
  | zero => simp [evict]
  | succ excess ih =>
      rw [evict]
      split
      · simp
      · next old rest hold =>
          obtain ⟨front, back, rfl, rfl, -, -⟩ := oldestUnused_split hold
          have hnodup := List.nodup_middle.1 h
          dsimp only
          rw [filter_not_mem_cons hnodup.notMem]
          exact ih hnodup.of_cons

/-- **Eviction goes in rounds**, until there is room or nothing more can go. -/
theorem rounds_evict (newest : Kept) {excess : Nat} (h : excess = ks.length + 1 - capacity) :
    Rounds committed (ks ++ [newest]) (evict committed excess ks).2
      ((evict committed excess ks).1 ++ [newest]) := by
  induction excess generalizing ks with
  | zero =>
      refine .done fun old ks' hround => ?_
      have hcrowded := hround.crowded
      rw [List.length_append, List.length_singleton] at hcrowded
      omega
  | succ excess ih =>
      rw [evict]
      split
      · next hnone =>
          exact .done fun old ks' hround =>
            hround.unused (used_of_oldestUnused hnone old hround.mem)
      · next old rest hold =>
          obtain ⟨front, back, rfl, rfl, hfront, hunused⟩ := oldestUnused_split hold
          rw [List.length_append, List.length_cons] at h
          have hround : Round committed (front ++ old :: back ++ [newest]) old
              (front ++ back ++ [newest]) := by
            refine ⟨?_, ⟨front, back ++ [newest], by simp, by simp, by simp, hfront⟩, hunused⟩
            simp only [List.length_append, List.length_cons, List.length_nil]
            omega
          refine .turn hround (ih ?_)
          rw [List.length_append]
          omega

/-! ## The files of a directory -/

/-- A file that can still be read is another than the one removed. -/
theorem read?_of_removed {d : Directory} {name removed : String} {content : Bytes}
    (h : (d.remove removed).read? name = some content) :
    name ≠ removed ∧ d.read? name = some content := by
  have hne : name ≠ removed := by
    rintro rfl
    rw [Directory.read?_remove_self] at h
    exact nomatch h
  rw [Directory.read?_remove_of_ne hne] at h
  exact ⟨hne, h⟩

/-- A file that is there after the files of some materials were removed is none
    of theirs, and it was there before. -/
theorem read?_of_removedFiles {d : Directory} {gone : List Kept} {name : String} {content : Bytes}
    (h : (gone.foldl removeFiles d).read? name = some content) :
    (∀ k ∈ gone, name ≠ k.certificateName ∧ name ≠ k.caName) ∧ d.read? name = some content := by
  induction gone generalizing d with
  | nil => exact ⟨nofun, h⟩
  | cons k gone ih =>
      obtain ⟨hgone, hread⟩ := ih h
      obtain ⟨hca, hread⟩ := read?_of_removed hread
      obtain ⟨hcertificate, hread⟩ := read?_of_removed hread
      refine ⟨fun k' hk' => ?_, hread⟩
      rcases List.mem_cons.1 hk' with rfl | hk'
      · exact ⟨hcertificate, hca⟩
      · exact hgone k' hk'

/-- Whether every material that is cached has its files, and there are no
    others. -/
structure Tidy (s : Store) : Prop where
  sound : s.Sound
  owned : ∀ name content, s.directory.read? name = some content →
    ∃ k ∈ s.kept, name = k.certificateName ∨ name = k.caName

/-- A store in an empty directory is tidy. -/
theorem tidy_new (place : String) : (new place .empty).Tidy := ⟨sound_new place, nofun⟩

/-- Being told what is in use makes no mess. -/
theorem Tidy.retain (h : s.Tidy) (ms : List TlsMaterial) : (s.retain ms).Tidy :=
  ⟨h.sound.retain ms, h.owned⟩

/-- The materials that are cached. -/
def cached (s : Store) : List TlsMaterial := s.kept.map (·.material)

/-- What is kept is cached. -/
theorem mem_cached_of_kept (h : k ∈ s.kept) : k.material ∈ s.cached := List.mem_map_of_mem h

/-- What goes when a material is new. -/
def gone (s : Store) : List Kept :=
  (evict s.committed (s.kept.length + 1 - capacity) s.kept).2

/-- No pair is kept twice. -/
theorem Sound.nodup_kept (h : s.Sound) : s.kept.Nodup := .of_map _ h.materials

/-- What is cached after a new material was asked for. -/
theorem Sound.kept_of_new (h : s.Sound) (hnew : m ∉ s.cached) :
    (s.pathsFor m).1.kept = s.kept.filter (· ∉ s.gone) ++ [⟨m, pairId (s.begun + 1)⟩] := by
  obtain ⟨d, -, hd⟩ := h.pathsFor_of_new hnew
  rw [hd, Store.keep]
  exact congrArg (· ++ _) (evict_stay _ _ h.nodup_kept)

/-- **Asking for files leaves no others behind.** -/
theorem Tidy.pathsFor (h : s.Tidy) (m : TlsMaterial) : (s.pathsFor m).1.Tidy := by
  refine ⟨(h.sound.pathsFor m).2.1.sound, ?_⟩
  by_cases hm : m ∈ s.cached
  · obtain ⟨k, hk, rfl⟩ := List.mem_map.1 hm
    rw [h.sound.pathsFor_of_kept hk]
    exact h.owned
  · intro name content hread
    rw [h.sound.kept_of_new hm]
    obtain ⟨d, hadded, hd⟩ := h.sound.pathsFor_of_new hm
    rw [hd] at hread
    obtain ⟨hgone, hread⟩ : (∀ k ∈ s.gone, _) ∧ _ := read?_of_removedFiles hread
    by_cases hcertificate : name = (⟨m, pairId (s.begun + 1)⟩ : Kept).certificateName
    · exact ⟨_, List.mem_append_right _ (List.mem_singleton_self _), .inl hcertificate⟩
    by_cases hca : name = (⟨m, pairId (s.begun + 1)⟩ : Kept).caName
    · exact ⟨_, List.mem_append_right _ (List.mem_singleton_self _), .inr hca⟩
    -- a file of before is that of a material that stays
    rw [hadded.others name hcertificate hca] at hread
    obtain ⟨k, hk, hname⟩ := h.owned name content hread
    have hstays : k ∉ s.gone := by
      intro hmem
      obtain ⟨hne, hne'⟩ := hgone k hmem
      exact hname.elim hne hne'
    exact ⟨k, List.mem_append_left _ (List.mem_filter.2 ⟨hk, by simpa using hstays⟩), hname⟩

/-- **The files are exactly those of the cached materials.** -/
theorem Tidy.read?_eq_some_iff (h : s.Tidy) {name : String} {content : Bytes} :
    s.directory.read? name = some content ↔
      ∃ k ∈ s.kept, (name = k.certificateName ∧ content = bundle k.material) ∨
        (name = k.caName ∧ content = caBundle k.material) := by
  constructor
  · intro hread
    obtain ⟨k, hk, rfl | rfl⟩ := h.owned name content hread
    · rw [h.sound.certificate k hk] at hread
      exact ⟨k, hk, .inl ⟨rfl, (Option.some.inj hread).symm⟩⟩
    · rw [h.sound.authorities k hk] at hread
      exact ⟨k, hk, .inr ⟨rfl, (Option.some.inj hread).symm⟩⟩
  · rintro ⟨k, hk, ⟨rfl, rfl⟩ | ⟨rfl, rfl⟩⟩
    · exact h.sound.certificate k hk
    · exact h.sound.authorities k hk

/-- The paths of the cached materials. -/
def allPaths (s : Store) : List String :=
  s.kept.flatMap fun k => [(k.paths s.place).certificate, (k.paths s.place).caFile]

/-- No two files have a path in common. -/
theorem Sound.nodup_allPaths (h : s.Sound) : s.allPaths.Nodup := by
  refine List.nodup_flatMap.2 ⟨fun k hk => ?_, ?_⟩
  · obtain ⟨n, -, hid⟩ := h.numbered k hk
    refine List.nodup_cons.2 ⟨?_, List.nodup_singleton _⟩
    rw [List.mem_singleton]
    exact fun heq => Kept.certificateName_ne_caName hid (pathIn_inj heq)
  · refine (List.pairwise_map.1 h.ids).imp_of_mem ?_
    intro a b ha hb hne
    obtain ⟨n, -, hid⟩ := h.numbered a ha
    obtain ⟨n', -, hid'⟩ := h.numbered b hb
    obtain ⟨⟨hcc, hca⟩, hac, haa⟩ := Kept.names_ne hid hid' hne
    intro path hpath hpath'
    simp only [List.mem_cons, List.not_mem_nil, or_false] at hpath hpath'
    rcases hpath with rfl | rfl
    · rcases hpath' with heq | heq
      · exact hcc (pathIn_inj heq)
      · exact hca (pathIn_inj heq)
    · rcases hpath' with heq | heq
      · exact hac (pathIn_inj heq)
      · exact haa (pathIn_inj heq)

/-! ## How much is cached -/

/-- The cached materials that are in use. -/
def inUse (s : Store) : List Kept := s.kept.filter fun k => s.committed.contains k.material

/-- Every cached material is in use or not. -/
theorem length_kept (s : Store) :
    s.kept.length = s.inUse.length + (s.kept.filter (unused s.committed)).length :=
  List.length_eq_length_filter_add _

/-- **The cache has its bound** after a material was added, or it holds only
    what is in use beside that material. -/
theorem Sound.length_kept_of_new (h : s.Sound) (hnew : m ∉ s.cached) :
    (s.pathsFor m).1.kept.length ≤ max capacity (1 + s.inUse.length) := by
  have hgone : s.gone.length =
      min (s.kept.length + 1 - capacity) (s.kept.filter (unused s.committed)).length := by
    rw [gone, evict_gone, List.length_take]
  have hparts : (s.kept.filter (· ∉ s.gone)).length + s.gone.length = s.kept.length := by
    rw [← List.length_append, gone, ← evict_stay _ _ h.nodup_kept]
    exact (evict_parts s.committed _ s.kept).1.length_eq
  have hall := s.length_kept
  rw [h.kept_of_new hnew, List.length_append, List.length_singleton]
  omega

/-! ## Calls -/

/-- What a store is called for. -/
inductive Call where
  | pathsFor (material : TlsMaterial)
  | retain (materials : List TlsMaterial)

/-- The store after a call. -/
def call (s : Store) : Call → Store
  | .pathsFor m => (s.pathsFor m).1
  | .retain ms => s.retain ms

/-- The store after some calls. -/
def calls (s : Store) (cs : List Call) : Store := cs.foldl call s

/-- The materials that are in use after some calls, by the last list that was
    told. -/
def latest (committed : List TlsMaterial) : List Call → List TlsMaterial
  | [] => committed
  | .pathsFor _ :: cs => latest committed cs
  | .retain ms :: cs => latest ms cs

/-- **Every call leaves a store tidy.** -/
theorem Tidy.call (h : s.Tidy) (c : Call) : (s.call c).Tidy := by
  cases c with
  | pathsFor m => exact h.pathsFor m
  | retain ms => exact h.retain ms

/-- So do any calls. -/
theorem Tidy.calls (h : s.Tidy) (cs : List Call) : (s.calls cs).Tidy := by
  induction cs generalizing s with
  | nil => exact h
  | cons c cs ih => exact ih (h.call c)

/-- What is in use is what was told last. -/
theorem Tidy.committed_calls (h : s.Tidy) (cs : List Call) :
    (s.calls cs).committed = latest s.committed cs := by
  induction cs generalizing s with
  | nil => rfl
  | cons c cs ih =>
      refine (ih (h.call c)).trans ?_
      cases c with
      | pathsFor m =>
          show latest (s.pathsFor m).1.committed cs = latest s.committed cs
          rw [(h.sound.pathsFor m).2.1.committed]
      | retain ms => rfl

/-- A store stays in its place. -/
theorem Tidy.place_call (h : s.Tidy) (c : Call) : (s.call c).place = s.place := by
  cases c with
  | pathsFor m => exact (h.sound.pathsFor m).2.1.place
  | retain ms => rfl

/-- **What is in use is spared.** -/
theorem Tidy.spared (h : s.Tidy) (c : Call) (hk : k ∈ s.kept) (hm : k.material ∈ s.committed) :
    k ∈ (s.call c).kept := by
  cases c with
  | pathsFor m => exact (h.sound.pathsFor m).2.1.kept k hk hm
  | retain ms => exact hk

/-- A material that is cached before and after a call has the same files. -/
theorem Tidy.kept_call (h : s.Tidy) (c : Call) (hk : k ∈ s.kept)
    (hm : k.material ∈ (s.call c).cached) : k ∈ (s.call c).kept := by
  cases c with
  | retain ms => exact hk
  | pathsFor m =>
      by_cases hcached : m ∈ s.cached
      · obtain ⟨k', hk', rfl⟩ := List.mem_map.1 hcached
        show k ∈ (s.pathsFor k'.material).1.kept
        rw [h.sound.pathsFor_of_kept hk']
        exact hk
      · obtain ⟨k', hk', hmaterial⟩ := List.mem_map.1 hm
        have hkept : (s.call (.pathsFor m)).kept = _ := h.sound.kept_of_new hcached
        rw [hkept] at hk' ⊢
        rcases List.mem_append.1 hk' with hstays | hnew
        · have hsame : k' = k := List.inj_on_of_nodup_map h.sound.materials
            (List.mem_filter.1 hstays).1 hk hmaterial
          exact List.mem_append_left _ (hsame ▸ hstays)
        · rw [List.mem_singleton.1 hnew] at hmaterial
          exact absurd (mem_cached_of_kept hk) (hmaterial ▸ hcached)

/-- **As long as a material is cached it has the same files.** -/
theorem Tidy.kept_calls (h : s.Tidy) {cs : List Call} (hk : k ∈ s.kept)
    (hm : ∀ front, front <+: cs → k.material ∈ (s.calls front).cached) :
    k ∈ (s.calls cs).kept ∧ (s.calls cs).place = s.place := by
  induction cs generalizing s with
  | nil => exact ⟨hk, rfl⟩
  | cons c cs ih =>
      have hone : [c] <+: c :: cs := List.cons_prefix_cons.2 ⟨rfl, List.nil_prefix⟩
      obtain ⟨hkept, hplace⟩ := ih (h.call c) (h.kept_call c hk (hm [c] hone))
        fun front hfront => hm (c :: front) (List.cons_prefix_cons.2 ⟨rfl, hfront⟩)
      exact ⟨hkept, hplace.trans (h.place_call c)⟩

/-! ## The cache -/

/-- What is promised of a store after any calls, the last of which to tell what
    is in use told this. -/
structure Caching (s : Store) (committed : List TlsMaterial) : Prop where
  committed : s.committed = committed
  materials : s.cached.Nodup
  paths : s.allPaths.Nodup
  /-- The directory holds the files of the cached materials, each with what it is
      to hold, and no others. -/
  files : ∀ name content, s.directory.read? name = some content ↔
    ∃ k ∈ s.kept, (name = k.certificateName ∧ content = certificateText k.material) ∨
      (name = k.caName ∧ content = authoritiesText k.material.cas)
  /-- Who asks for files is answered with files that are there, and so is
      whoever asks again, as long as the material is cached. -/
  answered : ∀ m, m ∈ (s.pathsFor m).1.cached ∧ ∃ p, (s.pathsFor m).2 = .ok p ∧
    ∀ cs, (∀ front, front <+: cs → m ∈ ((s.pathsFor m).1.calls front).cached) →
      (((s.pathsFor m).1.calls cs).pathsFor m).2 = .ok p ∧
      ((s.pathsFor m).1.calls cs).Holds p.certificate (certificateText m) ∧
      ((s.pathsFor m).1.calls cs).Holds p.caFile (authoritiesText m.cas)
  /-- Asking for what is cached changes nothing. -/
  hit : ∀ m ∈ s.cached, (s.pathsFor m).1 = s
  /-- No call makes go what is in use. -/
  spared : ∀ c, ∀ k ∈ s.kept, k.material ∈ s.committed → k ∈ (s.call c).kept
  /-- A new material makes the oldest go that are not in use, round by round. -/
  evicted : ∀ m, m ∉ s.cached → ∃ gone,
    gone = (s.kept.filter (unused s.committed)).take (s.kept.length + 1 - capacity) ∧
    (s.pathsFor m).1.kept = s.kept.filter (· ∉ gone) ++ [⟨m, pairId (s.begun + 1)⟩] ∧
    ∀ gone' ks, Rounds s.committed (s.kept ++ [⟨m, pairId (s.begun + 1)⟩]) gone' ks ↔
      gone' = gone ∧ ks = (s.pathsFor m).1.kept
  /-- After it the cache has its bound, or holds only what is in use beside that
      material. -/
  bounded : ∀ m, m ∉ s.cached →
    (s.pathsFor m).1.kept.length ≤ max capacity (1 + s.inUse.length) ∧
      s.inUse.length ≤ (s.pathsFor m).1.inUse.length

/-- What is in use stays cached. -/
theorem Tidy.length_inUse_le (h : s.Tidy) (m : TlsMaterial) :
    s.inUse.length ≤ (s.pathsFor m).1.inUse.length := by
  have hsub : s.inUse ⊆ (s.pathsFor m).1.inUse := by
    intro k hk
    obtain ⟨hk, hm⟩ := List.mem_filter.1 hk
    refine List.mem_filter.2 ⟨h.spared (.pathsFor m) hk (List.contains_iff_mem.1 hm), ?_⟩
    rw [(h.sound.pathsFor m).2.1.committed]
    exact hm
  exact (List.subperm_of_subset (h.sound.nodup_kept.filter _) hsub).length_le

/-- A tidy store keeps all its promises. -/
theorem Tidy.caching (h : s.Tidy) : Caching s s.committed where
  committed := rfl
  materials := h.sound.materials
  paths := h.sound.nodup_allPaths
  files := by
    intro name content
    simp only [h.read?_eq_some_iff, bundle_eq, caBundle_eq]
  answered := by
    intro m
    -- the pair that was answered is kept for as long as its material is cached
    obtain ⟨hanswer, hlater, k, hk, rfl, hpaths⟩ := h.sound.pathsFor m
    refine ⟨mem_cached_of_kept hk, _, hanswer, fun cs hcached => ?_⟩
    have htidy := h.pathsFor k.material
    obtain ⟨hkept, hplace⟩ := htidy.kept_calls hk hcached
    have hsound := (htidy.calls cs).sound
    have hexpected := hsound.expected_of_kept hkept
    rw [hplace, hlater.place, hpaths] at hexpected
    have hholds := hsound.holds hkept
    rw [hexpected, bundle_eq, caBundle_eq] at hholds
    rw [(hsound.pathsFor k.material).1, hexpected]
    exact ⟨rfl, hholds⟩
  hit := by
    intro m hm
    obtain ⟨k, hk, rfl⟩ := List.mem_map.1 hm
    rw [h.sound.pathsFor_of_kept hk]
  spared := fun c _ hk hm => h.spared c hk hm
  evicted := by
    intro m hm
    have hgone : s.gone = _ := evict_gone s.committed (s.kept.length + 1 - capacity) s.kept
    have hkept := h.sound.kept_of_new hm
    refine ⟨s.gone, hgone, hkept, fun gone' ks => ?_⟩
    have hrounds : Rounds s.committed (s.kept ++ [⟨m, pairId (s.begun + 1)⟩]) s.gone _ :=
      rounds_evict ⟨m, pairId (s.begun + 1)⟩ rfl
    -- which pairs go is settled round by round, so that any other account of it agrees
    rw [evict_stay _ _ h.sound.nodup_kept] at hrounds
    rw [hkept]
    constructor
    · intro hrounds'
      exact hrounds'.unique hrounds
    · rintro ⟨rfl, rfl⟩
      exact hrounds
  bounded := fun m hm => ⟨h.sound.length_kept_of_new hm, h.length_inUse_le m⟩

/-- **The cache of certificate files**, after any calls to a store that was
    opened on an empty directory. -/
theorem calls_caching (place : String) (cs : List Call) :
    Caching ((new place .empty).calls cs) (latest [] cs) := by
  have htidy := tidy_new place
  have hcaching := (htidy.calls cs).caching
  rw [htidy.committed_calls cs] at hcaching
  exact hcaching

end Store

end MeshSync.Certificates
