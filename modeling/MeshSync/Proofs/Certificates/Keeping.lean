import Mathlib.Data.List.Nodup
import MeshSync.Certificates.Store
import MeshSync.Proofs.SortedMap

/-! # Files that are kept

    Where files can be written, every material that is cached has its two files
    (`Store.Sound`), and asking for the files of a material keeps it so
    (`Store.Sound.pathsFor`).  What is evicted is not in use: a material that
    the proxy was last told to use keeps its files, whatever else is asked for
    (`Store.Later.kept`). -/

namespace MeshSync.Certificates

/-! ## Directories -/

namespace Directory

variable {d : Directory} {name name' : String}

/-- Whether files can be written. -/
structure Writable (d : Directory) : Prop where
  there : ∃ files, d.files = some files
  fates : d.fates = []

/-- Into an empty directory files can be written. -/
theorem Writable.empty : empty.Writable := ⟨⟨∅, rfl⟩, rfl⟩

/-- What was written can be read, and all else as before. -/
theorem read?_of_write {d' : Directory} {content : Bytes}
    (h : d.write name content = (d', .ok ())) (name' : String) :
    d'.read? name' = if name' = name then some content else d.read? name' := by
  rw [Directory.write] at h
  dsimp only at h
  split at h
  · exact nomatch h
  · exact nomatch h
  · next files hfates hfiles =>
      rw [← (Prod.mk.inj h).1, read?, read?, hfiles, Option.bind_some, Option.bind_some]
      split
      · next heq => rw [heq, SortedMap.get?_insert_self]
      · next hne => rw [SortedMap.get?_insert_of_ne _ hne]

/-- Where files can be written, they are. -/
theorem Writable.write (h : d.Writable) (name : String) (content : Bytes) :
    ∃ d', d.write name content = (d', .ok ()) ∧ d'.Writable ∧
      ∀ name', d'.read? name' = if name' = name then some content else d.read? name' := by
  obtain ⟨⟨files, hfiles⟩, hfates⟩ := h
  have hwrite : d.write name content = (⟨some (files.insert name content), []⟩, .ok ()) := by
    rw [Directory.write, hfates, hfiles]
    rfl
  exact ⟨_, hwrite, ⟨⟨_, rfl⟩, rfl⟩, read?_of_write hwrite⟩

/-- Removing a file leaves a directory writable. -/
theorem Writable.remove (h : d.Writable) (name : String) : (d.remove name).Writable := by
  obtain ⟨⟨files, hfiles⟩, hfates⟩ := h
  exact ⟨⟨files.erase name, by rw [Directory.remove, hfiles]; rfl⟩, hfates⟩

/-- The other files stay. -/
theorem read?_remove_of_ne (h : name' ≠ name) : (d.remove name).read? name' = d.read? name' := by
  rw [read?, remove, read?]
  cases d.files with
  | none => rfl
  | some files => exact SortedMap.get?_erase_of_ne _ h

/-- A file that is removed is gone. -/
theorem read?_remove_self (d : Directory) (name : String) :
    (d.remove name).read? name = none := by
  rw [read?, remove]
  cases d.files with
  | none => rfl
  | some files => exact SortedMap.get?_erase_self files name

end Directory

/-! ## Names -/

/-- Files with one path in a directory have one name, however the directory's
    path ends. -/
theorem pathIn_inj {place a b : String} (h : pathIn place a = pathIn place b) : a = b := by
  rw [pathIn, pathIn] at h
  split at h
  · have hnames := congrArg String.toList h
    rw [String.toList_append, String.toList_append] at hnames
    exact String.toList_inj.1 (List.append_cancel_left hnames)
  · have hnames := congrArg String.toList h
    have hsame : (toString a).toList = (toString b).toList := by simpa using hnames
    exact String.toList_inj.1 hsame

/-- No two pairs have one id. -/
theorem pairId_inj {m n : Nat} (h : pairId m = pairId n) : m = n := Identifier.text_inj h

/-- An id has no `c` in it, which is how the two names of a pair are told
    apart. -/
theorem not_mem_pairId (n : Nat) : 'c' ∉ (pairId n).toList := by
  have hdigits : 'c' ∉ Decimal.digits n := fun h =>
    absurd (Decimal.isDigit_of_mem_digits 'c' h) (by decide)
  simp [pairId, Identifier.text, Identifier.serial, Identifier.padding, hdigits]

namespace Kept

variable {a b : Kept} {m n : Nat}

/-- The name of a certificate is an id and an ending. -/
theorem toList_certificateName (k : Kept) :
    k.certificateName.toList = k.id.toList ++ ".pem".toList := by
  rw [certificateName, String.toList_append]
  rfl

/-- The name of its authorities has the same id and another ending. -/
theorem toList_caName (k : Kept) : k.caName.toList = k.id.toList ++ "-ca.pem".toList := by
  rw [caName, String.toList_append]
  rfl

/-- No certificate file is named like a file of authorities. -/
theorem certificateName_ne_caName (ha : a.id = pairId n) : a.certificateName ≠ b.caName := by
  intro h
  have h := congrArg String.toList h
  rw [toList_certificateName, toList_caName, ha] at h
  have hid : (pairId n).toList = b.id.toList ++ "-ca".toList :=
    List.append_cancel_right (h.trans (List.append_assoc _ "-ca".toList ".pem".toList).symm)
  refine not_mem_pairId n ?_
  rw [hid]
  simp

/-- Different pairs of files have no name in common. -/
theorem names_ne (ha : a.id = pairId m) (hb : b.id = pairId n) (h : a.id ≠ b.id) :
    (a.certificateName ≠ b.certificateName ∧ a.certificateName ≠ b.caName) ∧
      (a.caName ≠ b.certificateName ∧ a.caName ≠ b.caName) := by
  refine ⟨⟨fun heq => h ?_, certificateName_ne_caName ha⟩,
    (certificateName_ne_caName hb).symm, fun heq => h ?_⟩
  · have heq := congrArg String.toList heq
    rw [toList_certificateName, toList_certificateName] at heq
    exact String.toList_inj.1 (List.append_cancel_right heq)
  · have heq := congrArg String.toList heq
    rw [toList_caName, toList_caName] at heq
    exact String.toList_inj.1 (List.append_cancel_right heq)

end Kept

namespace Store

variable {s s' : Store} {m : TlsMaterial} {k : Kept} {committed : List TlsMaterial}

/-! ## Eviction -/

/-- The material split off is the first that is not in use. -/
theorem oldestUnused_split {ks rest : List Kept} {old : Kept}
    (h : oldestUnused committed ks = some (old, rest)) :
    ∃ front back, ks = front ++ old :: back ∧ rest = front ++ back ∧
      (∀ k ∈ front, k.material ∈ committed) ∧ old.material ∉ committed := by
  induction ks generalizing rest with
  | nil => exact nomatch h
  | cons k ks ih =>
      rw [oldestUnused] at h
      split at h
      · next hused =>
          obtain ⟨⟨old', rest'⟩, hrest, heq⟩ := Option.map_eq_some_iff.1 h
          obtain ⟨rfl, rfl⟩ := Prod.mk.inj heq
          obtain ⟨front, back, rfl, rfl, hfront, hunused⟩ := ih hrest
          refine ⟨k :: front, back, rfl, rfl, fun k' hk' => ?_, hunused⟩
          rcases List.mem_cons.1 hk' with rfl | hk'
          · exact List.contains_iff_mem.1 hused
          · exact hfront k' hk'
      · next hunused =>
          obtain ⟨rfl, rfl⟩ := Prod.mk.inj (Option.some.inj h)
          exact ⟨[], ks, rfl, rfl, nofun, fun hmem => hunused (List.contains_iff_mem.2 hmem)⟩

/-- **Eviction parts what was kept**, and nothing in use goes. -/
theorem evict_parts (committed : List TlsMaterial) (excess : Nat) (ks : List Kept) :
    ((evict committed excess ks).1 ++ (evict committed excess ks).2).Perm ks ∧
      ∀ k ∈ (evict committed excess ks).2, k.material ∉ committed := by
  induction excess generalizing ks with
  | zero => exact ⟨by rw [evict, List.append_nil], nofun⟩
  | succ excess ih =>
      rw [evict]
      split
      · exact ⟨by rw [List.append_nil], nofun⟩
      · next old rest hold =>
          obtain ⟨front, back, rfl, rfl, -, hunused⟩ := oldestUnused_split hold
          obtain ⟨hparts, hgone⟩ := ih (front ++ back)
          have hperm := List.perm_middle.trans (hparts.cons old)
          refine ⟨hperm.trans List.perm_middle.symm, fun k hk => ?_⟩
          rcases List.mem_cons.1 hk with rfl | hk
          · exact hunused
          · exact hgone k hk

/-- Removing pairs leaves every file that is of none of them. -/
theorem read?_removeFiles (d : Directory) {name : String} {gone : List Kept}
    (h : ∀ k ∈ gone, name ≠ k.certificateName ∧ name ≠ k.caName) :
    (gone.foldl removeFiles d).read? name = d.read? name := by
  induction gone generalizing d with
  | nil => rfl
  | cons k gone ih =>
      obtain ⟨hcertificate, hca⟩ := h k List.mem_cons_self
      rw [List.foldl_cons, ih _ fun k' hk' => h k' (List.mem_cons_of_mem _ hk'), removeFiles,
        Directory.read?_remove_of_ne hca, Directory.read?_remove_of_ne hcertificate]

/-- Removing pairs leaves a directory writable. -/
theorem writable_removeFiles {d : Directory} (h : d.Writable) (gone : List Kept) :
    (gone.foldl removeFiles d).Writable := by
  induction gone generalizing d with
  | nil => exact h
  | cons k gone ih => exact ih ((h.remove _).remove _)

/-! ## Sound stores -/

/-- Whether every material that is cached has its files, and others can be
    written. -/
structure Sound (s : Store) : Prop where
  writable : s.directory.Writable
  numbered : ∀ k ∈ s.kept, ∃ n, n ≤ s.begun ∧ k.id = pairId n
  ids : (s.kept.map (·.id)).Nodup
  materials : (s.kept.map (·.material)).Nodup
  certificate : ∀ k ∈ s.kept, s.directory.read? k.certificateName = some (bundle k.material)
  authorities : ∀ k ∈ s.kept, s.directory.read? k.caName = some (caBundle k.material)

/-- A store in an empty directory is sound. -/
theorem sound_new (place : String) : (new place .empty).Sound :=
  ⟨.empty, nofun, .nil, .nil, nofun, nofun⟩

/-- Being told what is in use changes no files. -/
theorem Sound.retain (h : s.Sound) (ms : List TlsMaterial) : (s.retain ms).Sound :=
  ⟨h.writable, h.numbered, h.ids, h.materials, h.certificate, h.authorities⟩

/-- The files of a material, if they are written when they are asked for. -/
def expected (s : Store) (m : TlsMaterial) : Paths :=
  match s.kept.find? (·.material = m) with
  | some k => k.paths s.place
  | none => (⟨m, pairId (s.begun + 1)⟩ : Kept).paths s.place

/-- A material is found exactly where it is cached, since none is cached
    twice. -/
theorem find?_eq_some_iff (h : s.Sound) :
    s.kept.find? (·.material = m) = some k ↔ k ∈ s.kept ∧ k.material = m := by
  constructor
  · intro hfind
    have hmaterial := List.find?_some hfind
    exact ⟨List.mem_of_find?_eq_some hfind, of_decide_eq_true hmaterial⟩
  · rintro ⟨hk, rfl⟩
    obtain ⟨k', hk'⟩ : ∃ k', s.kept.find? (·.material = k.material) = some k' :=
      Option.isSome_iff_exists.1 (List.find?_isSome.2 ⟨k, hk, decide_eq_true rfl⟩)
    have hmaterial := List.find?_some hk'
    have heq : k'.material = k.material := of_decide_eq_true hmaterial
    rw [hk', List.inj_on_of_nodup_map h.materials (List.mem_of_find?_eq_some hk') hk heq]

/-- The files of a material that is cached. -/
theorem Sound.expected_of_kept (h : s.Sound) (hk : k ∈ s.kept) :
    s.expected k.material = k.paths s.place := by
  rw [expected, (find?_eq_some_iff h).2 ⟨hk, rfl⟩]

/-- Whether a path is that of a file with some content. -/
def Holds (s : Store) (path : String) (content : Bytes) : Prop :=
  ∃ name, path = pathIn s.place name ∧ s.directory.read? name = some content

/-- The files of a material that is cached are there. -/
theorem Sound.holds (h : s.Sound) (hk : k ∈ s.kept) :
    s.Holds (s.expected k.material).certificate (bundle k.material) ∧
      s.Holds (s.expected k.material).caFile (caBundle k.material) := by
  rw [h.expected_of_kept hk]
  exact ⟨⟨_, rfl, h.certificate k hk⟩, _, rfl, h.authorities k hk⟩

/-! ## Later stores -/

/-- A store after files were asked for: what is in use is kept. -/
structure Later (s s' : Store) : Prop where
  sound : s'.Sound
  place : s'.place = s.place
  committed : s'.committed = s.committed
  kept : ∀ k ∈ s.kept, k.material ∈ s.committed → k ∈ s'.kept

/-- A store is a later one of itself. -/
theorem Later.refl (h : s.Sound) : Later s s := ⟨h, rfl, rfl, fun _ hk _ => hk⟩

/-- What is kept from call to call is kept. -/
theorem Later.trans {s'' : Store} (h : Later s s') (h' : Later s' s'') : Later s s'' := by
  refine ⟨h'.sound, h'.place.trans h.place, h'.committed.trans h.committed, fun k hk hm => ?_⟩
  refine h'.kept k (h.kept k hk hm) ?_
  rw [h.committed]
  exact hm

/-- The files of a material that is in use keep their names. -/
theorem Later.expected (h : Later s s') (hs : s.Sound) (hk : k ∈ s.kept)
    (hm : k.material ∈ s.committed) : s'.expected k.material = s.expected k.material := by
  rw [hs.expected_of_kept hk, h.sound.expected_of_kept (h.kept k hk hm), h.place]

/-- A directory to which a pair of files was added. -/
structure Added (d d' : Directory) (k : Kept) : Prop where
  writable : d'.Writable
  certificate : d'.read? k.certificateName = some (bundle k.material)
  authorities : d'.read? k.caName = some (caBundle k.material)
  others : ∀ name, name ≠ k.certificateName → name ≠ k.caName → d'.read? name = d.read? name

/-- Where files can be written, those of a material are. -/
theorem write_of_writable (h : s.directory.Writable) (m : TlsMaterial) : ∃ d,
    s.write m = ({ s with directory := d, begun := s.begun + 1 },
      .ok ⟨m, pairId (s.begun + 1)⟩) ∧
    Added s.directory d ⟨m, pairId (s.begun + 1)⟩ := by
  obtain ⟨d, hwrite, hwritable, hread⟩ :=
    h.write (⟨m, pairId (s.begun + 1)⟩ : Kept).certificateName (bundle m)
  obtain ⟨d', hwrite', hwritable', hread'⟩ :=
    hwritable.write (⟨m, pairId (s.begun + 1)⟩ : Kept).caName (caBundle m)
  refine ⟨d', ?_, hwritable', ?_, ?_, fun name hcertificate hca => ?_⟩
  · rw [Store.write, hwrite]
    dsimp only
    rw [hwrite']
  · rw [hread', if_neg (Kept.certificateName_ne_caName rfl), hread, if_pos rfl]
  · rw [hread', if_pos rfl]
  · rw [hread', if_neg hca, hread, if_neg hcertificate]

/-- What was written for a material are its two files. -/
theorem read?_of_write (h : s.write m = (s', .ok k)) :
    s'.directory.read? k.certificateName = some (bundle m) ∧
      s'.directory.read? k.caName = some (caBundle m) := by
  rw [Store.write] at h
  dsimp only at h
  split at h
  · exact nomatch h
  · next d hcertificate =>
      split at h
      · exact nomatch h
      · next d' hca =>
          obtain ⟨rfl, hk⟩ := Prod.mk.inj h
          obtain rfl := Except.ok.inj hk
          refine ⟨?_, ?_⟩
          · rw [Directory.read?_of_write hca, if_neg (Kept.certificateName_ne_caName rfl),
              Directory.read?_of_write hcertificate, if_pos rfl]
          · rw [Directory.read?_of_write hca, if_pos rfl]

/-! ## Keeping a new material -/

/-- A parting of the cached materials: nothing in use goes. -/
structure Parted (s : Store) (stay gone : List Kept) : Prop where
  perm : (stay ++ gone).Perm s.kept
  unused : ∀ k ∈ gone, k.material ∉ s.committed

namespace Parted

variable {stay gone : List Kept} {new : Kept}

/-- What stays was cached. -/
theorem kept_of_stay (h : Parted s stay gone) (hk : k ∈ stay) : k ∈ s.kept :=
  h.perm.subset (List.mem_append_left _ hk)

/-- What goes was cached. -/
theorem kept_of_gone (h : Parted s stay gone) (hk : k ∈ gone) : k ∈ s.kept :=
  h.perm.subset (List.mem_append_right _ hk)

/-- What is in use stays. -/
theorem stays (h : Parted s stay gone) (hk : k ∈ s.kept) (hm : k.material ∈ s.committed) :
    k ∈ stay :=
  (List.mem_append.1 (h.perm.mem_iff.2 hk)).resolve_right fun hgone => h.unused k hgone hm

/-- What stays shares no name with what goes. -/
theorem apart (h : Parted s stay gone) (hs : s.Sound) {a b : Kept} (ha : a ∈ stay)
    (hb : b ∈ gone) : a.id ≠ b.id := by
  have hids : ((stay ++ gone).map (·.id)).Nodup := (h.perm.map _).nodup_iff.2 hs.ids
  rw [List.map_append, List.nodup_append] at hids
  exact hids.2.2 _ (List.mem_map_of_mem ha) _ (List.mem_map_of_mem hb)

/-- What told the cached materials apart tells apart those that stay and a new
    one. -/
theorem nodup_map (h : Parted s stay gone) {α : Type} {f : Kept → α}
    (hkept : (s.kept.map f).Nodup) (hnew : ∀ k ∈ s.kept, f k ≠ f new) :
    ((stay ++ [new]).map f).Nodup := by
  have hall : ((stay ++ gone).map f).Nodup := (h.perm.map _).nodup_iff.2 hkept
  rw [List.map_append, List.nodup_append] at hall ⊢
  refine ⟨hall.1, List.nodup_singleton _, fun x hx y hy => ?_⟩
  obtain ⟨k, hk, rfl⟩ := List.mem_map.1 hx
  rw [List.mem_singleton.1 hy]
  exact hnew k (h.kept_of_stay hk)

end Parted

/-- The next pair of files has a new name. -/
theorem Sound.id_ne (h : s.Sound) (hk : k ∈ s.kept) : k.id ≠ pairId (s.begun + 1) := by
  intro heq
  obtain ⟨n, hn, hid⟩ := h.numbered k hk
  exact absurd (pairId_inj (hid.symm.trans heq)) (Nat.ne_of_lt (Nat.lt_succ_of_le hn))

/-- Adding files leaves those of the cached materials as they are. -/
theorem Sound.read?_added (h : s.Sound) {d : Directory}
    (hd : Added s.directory d ⟨m, pairId (s.begun + 1)⟩) (hk : k ∈ s.kept) :
    d.read? k.certificateName = some (bundle k.material) ∧
      d.read? k.caName = some (caBundle k.material) := by
  obtain ⟨n, -, hid⟩ := h.numbered k hk
  obtain ⟨⟨hc, hca⟩, hc', hca'⟩ :=
    Kept.names_ne (b := ⟨m, pairId (s.begun + 1)⟩) hid rfl (h.id_ne hk)
  rw [hd.others _ hc hca, hd.others _ hc' hca']
  exact ⟨h.certificate k hk, h.authorities k hk⟩

/-- Removing the files of some materials leaves those of others as they are. -/
theorem read?_removeFiles_of_ids {d : Directory} {gone : List Kept} {n : Nat}
    (hid : k.id = pairId n) (hgone : ∀ k' ∈ gone, ∃ n', k'.id = pairId n')
    (hne : ∀ k' ∈ gone, k.id ≠ k'.id) :
    (gone.foldl removeFiles d).read? k.certificateName = d.read? k.certificateName ∧
      (gone.foldl removeFiles d).read? k.caName = d.read? k.caName := by
  have apart : ∀ k' ∈ gone,
      (k.certificateName ≠ k'.certificateName ∧ k.certificateName ≠ k'.caName) ∧
        (k.caName ≠ k'.certificateName ∧ k.caName ≠ k'.caName) := by
    intro k' hk'
    obtain ⟨n', hid'⟩ := hgone k' hk'
    exact Kept.names_ne hid hid' (hne k' hk')
  exact ⟨read?_removeFiles d fun k' hk' => (apart k' hk').1,
    read?_removeFiles d fun k' hk' => (apart k' hk').2⟩

/-- **A new material is kept**, and old ones go that are not in use. -/
theorem Sound.keep (h : s.Sound) (hnew : m ∉ s.kept.map (·.material)) {d : Directory}
    (hd : Added s.directory d ⟨m, pairId (s.begun + 1)⟩) :
    ({ s with directory := d, begun := s.begun + 1 }.keep ⟨m, pairId (s.begun + 1)⟩).Sound ∧
      ∀ k ∈ s.kept, k.material ∈ s.committed →
        k ∈ ({ s with directory := d, begun := s.begun + 1 }.keep
          ⟨m, pairId (s.begun + 1)⟩).kept := by
  obtain ⟨hperm, hunused⟩ := evict_parts s.committed (s.kept.length + 1 - capacity) s.kept
  rw [Store.keep]
  dsimp only
  generalize evict s.committed (s.kept.length + 1 - capacity) s.kept = parts at hperm hunused ⊢
  obtain ⟨stay, gone⟩ := parts
  have hparted : Parted s stay gone := ⟨hperm, hunused⟩
  have hgone : ∀ k ∈ gone, ∃ n, k.id = pairId n := by
    intro k hk
    obtain ⟨n, -, hid⟩ := h.numbered k (hparted.kept_of_gone hk)
    exact ⟨n, hid⟩
  -- a material that is cached now was cached before, or it is the new one
  have hread : ∀ k ∈ stay ++ [⟨m, pairId (s.begun + 1)⟩],
      (∃ n, n ≤ s.begun + 1 ∧ k.id = pairId n) ∧
        (gone.foldl removeFiles d).read? k.certificateName = some (bundle k.material) ∧
        (gone.foldl removeFiles d).read? k.caName = some (caBundle k.material) := by
    intro k hk
    rcases List.mem_append.1 hk with hk | hk
    · have hkept := hparted.kept_of_stay hk
      obtain ⟨n, hn, hid⟩ := h.numbered k hkept
      obtain ⟨hcertificate, hca⟩ := h.read?_added hd hkept
      obtain ⟨hcertificate', hca'⟩ := read?_removeFiles_of_ids (d := d) hid hgone
        fun k' hk' => hparted.apart h hk hk'
      exact ⟨⟨n, Nat.le_succ_of_le hn, hid⟩, hcertificate'.trans hcertificate, hca'.trans hca⟩
    · obtain rfl := List.mem_singleton.1 hk
      obtain ⟨hcertificate, hca⟩ := read?_removeFiles_of_ids (d := d)
        (k := ⟨m, pairId (s.begun + 1)⟩) rfl hgone
        fun k' hk' => (h.id_ne (hparted.kept_of_gone hk')).symm
      exact ⟨⟨_, Nat.le_refl _, rfl⟩, hcertificate.trans hd.certificate,
        hca.trans hd.authorities⟩
  refine ⟨⟨writable_removeFiles hd.writable gone, fun k hk => (hread k hk).1,
    hparted.nodup_map h.ids fun k hk => h.id_ne hk,
    hparted.nodup_map h.materials fun k hk heq => hnew (List.mem_map.2 ⟨k, hk, heq⟩),
    fun k hk => (hread k hk).2.1, fun k hk => (hread k hk).2.2⟩, fun k hk hm => ?_⟩
  exact List.mem_append_left _ (hparted.stays hk hm)

/-! ## Asking for files -/

/-- **Asking for the files of a material** gives the files that were expected,
    and from then on the material is cached. -/
theorem Sound.pathsFor (h : s.Sound) (m : TlsMaterial) :
    (s.pathsFor m).2 = .ok (s.expected m) ∧ Later s (s.pathsFor m).1 ∧
      ∃ k ∈ (s.pathsFor m).1.kept, k.material = m ∧ k.paths s.place = s.expected m := by
  cases hfind : s.kept.find? (·.material = m) with
  | some k =>
      obtain ⟨hk, hm⟩ := (find?_eq_some_iff h).1 hfind
      rw [Store.pathsFor, expected, hfind]
      exact ⟨rfl, .refl h, k, hk, hm, rfl⟩
  | none =>
      have hnew : m ∉ s.kept.map (·.material) := by
        intro hmem
        obtain ⟨k, hk, hm⟩ := List.mem_map.1 hmem
        rw [(find?_eq_some_iff h).2 ⟨hk, hm⟩] at hfind
        exact nomatch hfind
      obtain ⟨d, hwrite, hadded⟩ := write_of_writable h.writable m
      obtain ⟨hsound, hkept⟩ := h.keep hnew hadded
      rw [Store.pathsFor, expected, hfind]
      dsimp only
      rw [hwrite]
      exact ⟨rfl, ⟨hsound, rfl, rfl, hkept⟩, _,
        List.mem_append_right _ (List.mem_singleton_self _), rfl, rfl⟩

/-- Once a material is cached, asking for its files changes nothing. -/
theorem Sound.pathsFor_of_kept (h : s.Sound) (hk : k ∈ s.kept) :
    s.pathsFor k.material = (s, .ok (k.paths s.place)) := by
  rw [Store.pathsFor, (find?_eq_some_iff h).2 ⟨hk, rfl⟩]

/-! ## A full cache -/

/-- The store after some materials were asked for. -/
def asked (s : Store) (ms : List TlsMaterial) : Store := ms.foldl (fun s m => (s.pathsFor m).1) s

/-- Asking for materials loses nothing in use. -/
theorem Sound.later_asked (h : s.Sound) (ms : List TlsMaterial) : Later s (s.asked ms) := by
  induction ms generalizing s with
  | nil => exact .refl h
  | cons m ms ih =>
      have hlater := (h.pathsFor m).2.1
      exact hlater.trans (ih hlater.sound)

/-- What a new material makes of the store. -/
theorem Sound.pathsFor_of_new (h : s.Sound) (hnew : m ∉ s.kept.map (·.material)) : ∃ d,
    Added s.directory d ⟨m, pairId (s.begun + 1)⟩ ∧
      (s.pathsFor m).1 =
        { s with directory := d, begun := s.begun + 1 }.keep ⟨m, pairId (s.begun + 1)⟩ := by
  have hnone : s.kept.find? (·.material = m) = none := by
    refine List.find?_eq_none.2 fun k hk hm => hnew (List.mem_map.2 ⟨k, hk, ?_⟩)
    exact of_decide_eq_true hm
  obtain ⟨d, hwrite, hadded⟩ := write_of_writable h.writable m
  refine ⟨d, hadded, ?_⟩
  rw [Store.pathsFor, hnone]
  dsimp only
  rw [hwrite]

/-- As long as there is room, a new material is kept with all others. -/
theorem Sound.kept_pathsFor (h : s.Sound) (hnew : m ∉ s.kept.map (·.material))
    (hroom : s.kept.length < capacity) :
    (s.pathsFor m).1.kept = s.kept ++ [⟨m, pairId (s.begun + 1)⟩] := by
  obtain ⟨d, -, hd⟩ := h.pathsFor_of_new hnew
  rw [hd, Store.keep, Nat.sub_eq_zero_of_le hroom]
  rfl

/-- New materials for which there is room are cached behind the others, in
    their order. -/
theorem Sound.kept_asked (h : s.Sound) {ms : List TlsMaterial}
    (hnew : (s.kept.map (·.material) ++ ms).Nodup) (hroom : s.kept.length + ms.length ≤ capacity) :
    ∃ added, (s.asked ms).kept = s.kept ++ added ∧ added.map (·.material) = ms := by
  induction ms generalizing s with
  | nil => exact ⟨[], (List.append_nil _).symm, rfl⟩
  | cons m ms ih =>
      rw [List.length_cons] at hroom
      have hm : m ∉ s.kept.map (·.material) := fun hmem =>
        (List.nodup_append.1 hnew).2.2 m hmem m List.mem_cons_self rfl
      have hkept := h.kept_pathsFor hm (by omega)
      obtain ⟨added, hadded, hmaterials⟩ := ih (h.pathsFor m).2.1.sound
        (by rw [hkept, List.map_append, List.append_assoc]; exact hnew)
        (by rw [hkept, List.length_append, List.length_singleton]; omega)
      refine ⟨⟨m, pairId (s.begun + 1)⟩ :: added, ?_, congrArg (m :: ·) hmaterials⟩
      rw [asked, List.foldl_cons]
      exact hadded.trans (by rw [hkept, List.append_assoc]; rfl)

/-- **A material that is not in use loses its files** once the cache is full of
    newer ones. -/
theorem Sound.lost (h : s.Sound) {rest : List Kept} (hkept : s.kept = k :: rest)
    (hunused : k.material ∉ s.committed) {ms : List TlsMaterial}
    (hnew : (s.kept.map (·.material) ++ (ms ++ [m])).Nodup)
    (hfull : s.kept.length + ms.length = capacity) (content : Bytes) :
    ¬ (s.asked (ms ++ [m])).Holds (k.paths s.place).certificate content := by
  rw [← List.append_assoc] at hnew
  obtain ⟨added, hadded, hmaterials⟩ :=
    h.kept_asked (List.nodup_append.1 hnew).1 (Nat.le_of_eq hfull)
  have hlater := h.later_asked ms
  have hasked : s.asked (ms ++ [m]) = ((s.asked ms).pathsFor m).1 := by
    rw [asked, List.foldl_append]
    rfl
  rw [hasked, ← hlater.place]
  rw [← hlater.committed] at hunused
  have hm : m ∉ (s.asked ms).kept.map (·.material) := by
    rw [hadded, List.map_append, hmaterials]
    exact fun hmem => (List.nodup_append.1 hnew).2.2 m hmem m (List.mem_singleton_self m) rfl
  have hexcess : (s.asked ms).kept.length + 1 - capacity = 1 := by
    have hlength : added.length = ms.length := by rw [← hmaterials, List.length_map]
    rw [hadded, List.length_append]
    omega
  rw [hkept, List.cons_append] at hadded
  generalize s.asked ms = t at hlater hunused hm hexcess hadded ⊢
  obtain ⟨d, -, hd⟩ := hlater.sound.pathsFor_of_new hm
  -- there is one too many, and it is the oldest that goes
  have hevict : evict t.committed 1 (k :: (rest ++ added)) = (rest ++ added, [k]) := by
    rw [evict, oldestUnused, if_neg fun hmem => hunused (List.contains_iff_mem.1 hmem)]
    rfl
  rw [hd, Store.keep, hexcess, hadded, hevict]
  rintro ⟨name, hpath, hread⟩
  obtain rfl := pathIn_inj hpath
  obtain ⟨n, -, hid⟩ := hlater.sound.numbered k (hadded ▸ List.mem_cons_self)
  have hgone : (removeFiles d k).read? k.certificateName = none := by
    rw [removeFiles, Directory.read?_remove_of_ne (Kept.certificateName_ne_caName hid),
      Directory.read?_remove_self]
  exact nomatch hgone.symm.trans hread

end Store

end MeshSync.Certificates
