import MeshSync.Proofs.Certificates.Caching

/-! # What a failed write leaves behind

    The files of a material are written one after the other, and the material is
    cached when both are there (`Store.asked`).  If the first of them cannot be
    written nothing has happened.  If the second cannot, the first stays, with
    the private key in it: no material that is cached has that file, so no later
    call removes it (`Store.Orphan.calls`).  `Store.failed_request` says so for
    every store that can be reached, whatever befalls its directory. -/

namespace MeshSync.Certificates

namespace Directory

/-- Whether the next write fails. -/
def Refuses (d : Directory) : Prop := d.files = none ∨ ∃ e, d.fates.head?.join = some e

/-- **A write** fails and leaves the files alone, or it writes one. -/
theorem write_cases (d : Directory) (name : String) (content : Bytes) :
    (∃ d' e, d.write name content = (d', .error e) ∧ d.Refuses ∧ d'.files = d.files) ∨
      ∃ d', d.write name content = (d', .ok ()) ∧ ¬ d.Refuses := by
  rw [write]
  dsimp only
  split
  · next e hfate => exact .inl ⟨_, e, rfl, .inr ⟨e, hfate⟩, rfl⟩
  · next hfate hfiles => exact .inl ⟨_, .missing, rfl, .inl hfiles, rfl⟩
  · next files hfate hfiles =>
      refine .inr ⟨_, rfl, ?_⟩
      rintro (hnone | ⟨e, he⟩)
      · cases hnone.symm.trans hfiles
      · cases he.symm.trans hfate

theorem read?_of_files {d d' : Directory} (h : d'.files = d.files) (name : String) :
    d'.read? name = d.read? name := by
  rw [read?, read?, h]

end Directory

namespace Store

variable {s s' : Store} {m : TlsMaterial} {k : Kept} {answer : Except Error Paths}

/-! ## Asking for files -/

/-- The next pair of files, if it is that of a material. -/
def next (s : Store) (m : TlsMaterial) : Kept := ⟨m, pairId (s.begun + 1)⟩

/-- All that asking for the files of a material can do. -/
inductive Asked (s : Store) (m : TlsMaterial) : Store → Except Error Paths → Prop where
  /-- The material is cached. -/
  | cached {k : Kept} (mem : k ∈ s.kept) : Asked s m s (.ok (k.paths s.place))
  /-- The first file cannot be written. -/
  | refused {d : Directory} {e : Error} (refuses : s.directory.Refuses)
      (files : d.files = s.directory.files) : Asked s m { s with directory := d } (.error e)
  /-- The first file is written and the second cannot be. -/
  | halved {d : Directory} {e : Error} (accepts : ¬ s.directory.Refuses)
      (files : ∀ name, d.read? name =
        if name = (s.next m).certificateName then some (bundle m) else s.directory.read? name) :
      Asked s m { s with directory := d, begun := s.begun + 1 } (.error e)
  /-- Both files are written. -/
  | kept {d : Directory} (files : ∀ name, name ≠ (s.next m).certificateName →
        name ≠ (s.next m).caName → d.read? name = s.directory.read? name) :
      Asked s m ({ s with directory := d, begun := s.begun + 1 }.keep (s.next m))
        (.ok ((s.next m).paths s.place))

/-- **What asking for files does.** -/
theorem asked_pathsFor (s : Store) (m : TlsMaterial) :
    Asked s m (s.pathsFor m).1 (s.pathsFor m).2 := by
  rw [pathsFor]
  cases hfind : s.kept.find? (·.material = m) with
  | some k => exact .cached (List.mem_of_find?_eq_some hfind)
  | none =>
      rw [write]
      dsimp only
      rcases s.directory.write_cases (s.next m).certificateName (bundle m) with
        ⟨d, e, hwrite, hrefuses, hfiles⟩ | ⟨d, hwrite, haccepts⟩
      · rw [next] at hwrite
        rw [hwrite]
        exact .refused hrefuses hfiles
      · -- the certificate is written; if the authorities are refused it stays there
        have hread := Directory.read?_of_write hwrite
        rcases d.write_cases (s.next m).caName (caBundle m) with
          ⟨d', e, hwrite', -, hfiles'⟩ | ⟨d', hwrite', -⟩
        · rw [next] at hwrite hwrite'
          rw [hwrite]
          dsimp only
          rw [hwrite']
          exact .halved haccepts fun name =>
            (Directory.read?_of_files hfiles' name).trans (hread name)
        · have hread' := Directory.read?_of_write hwrite'
          rw [next] at hwrite hwrite'
          rw [hwrite]
          dsimp only
          rw [hwrite']
          refine .kept fun name hcertificate hca => ?_
          rw [hread', if_neg hca, hread, if_neg hcertificate]

/-- Keeping a new material parts the others and removes the files of those that
    go. -/
theorem exists_keep (s : Store) (new : Kept) : ∃ stay gone, (stay ++ gone).Perm s.kept ∧
    s.keep new = { s with
      kept := stay ++ [new], directory := gone.foldl removeFiles s.directory } :=
  ⟨_, _, (evict_parts s.committed (s.kept.length + 1 - capacity) s.kept).1, rfl⟩

/-! ## Names that were taken -/

/-- Whether a store began the files of a material. -/
def Begun (s : Store) (k : Kept) : Prop := ∃ n, n ≤ s.begun ∧ k.id = pairId n

/-- Whether a store began the files of all that it keeps. -/
def Known (s : Store) : Prop := ∀ k ∈ s.kept, s.Begun k

theorem Begun.id_ne_next (h : s.Begun k) (m : TlsMaterial) : k.id ≠ (s.next m).id := by
  obtain ⟨n, hn, hid⟩ := h
  intro heq
  exact absurd (pairId_inj (hid.symm.trans heq)) (Nat.ne_of_lt (Nat.lt_succ_of_le hn))

/-- A material whose files were begun before has other files than the next. -/
theorem Begun.certificateName_ne_next (h : s.Begun k) (m : TlsMaterial) :
    k.certificateName ≠ (s.next m).certificateName ∧ k.certificateName ≠ (s.next m).caName := by
  have hne := h.id_ne_next m
  obtain ⟨n, -, hid⟩ := h
  exact (Kept.names_ne hid rfl hne).1

theorem Asked.begun_le (h : Asked s m s' answer) : s.begun ≤ s'.begun := by
  cases h with
  | cached _ => exact Nat.le_refl _
  | refused _ _ => exact Nat.le_refl _
  | halved _ _ => exact Nat.le_succ _
  | kept _ => exact Nat.le_succ _

/-- What is kept then was kept before, or its files are the next. -/
theorem Asked.mem_kept (h : Asked s m s' answer) (hk : k ∈ s'.kept) :
    k ∈ s.kept ∨ s'.Begun k ∧ k = s.next m := by
  cases h with
  | cached _ => exact .inl hk
  | refused _ _ => exact .inl hk
  | halved _ _ => exact .inl hk
  | @kept d _ =>
      obtain ⟨stay, gone, hperm, hkeep⟩ := exists_keep
        { s with directory := d, begun := s.begun + 1 } (s.next m)
      rw [hkeep] at hk ⊢
      rcases List.mem_append.1 hk with hstay | hnew
      · exact .inl (hperm.subset (List.mem_append_left _ hstay))
      · cases List.mem_singleton.1 hnew
        exact .inr ⟨⟨_, Nat.le_refl _, rfl⟩, rfl⟩

/-- A call forgets no name. -/
theorem Begun.call (h : s.Begun k) (c : Call) : (s.call c).Begun k := by
  obtain ⟨n, hn, hid⟩ := h
  cases c with
  | retain ms => exact ⟨n, hn, hid⟩
  | pathsFor m => exact ⟨n, Nat.le_trans hn (s.asked_pathsFor m).begun_le, hid⟩

/-- What is kept after a call was kept before, or its files were the next. -/
theorem mem_kept_call (c : Call) (h : k ∈ (s.call c).kept) :
    k ∈ s.kept ∨ (s.call c).Begun k ∧ ∃ m, k = s.next m := by
  cases c with
  | retain ms => exact .inl h
  | pathsFor m => exact ((s.asked_pathsFor m).mem_kept h).imp_right fun h => ⟨h.1, m, h.2⟩

theorem Known.call (h : s.Known) (c : Call) : (s.call c).Known := by
  intro k hk
  rcases mem_kept_call c hk with hbefore | ⟨hbegun, -⟩
  · exact (h k hbefore).call c
  · exact hbegun

/-! ## A file that nobody knows of -/

/-- A certificate file of a material that is not cached under its name. -/
structure Orphan (s : Store) (k : Kept) : Prop where
  begun : s.Begun k
  known : s.Known
  unknown : ∀ k' ∈ s.kept, k.id ≠ k'.id
  there : s.directory.read? k.certificateName = some (bundle k.material)

/-- The file of a material that is not cached is not among those that go. -/
theorem Orphan.read?_asked (h : s.Orphan k) (hasked : Asked s m s' answer) :
    s'.directory.read? k.certificateName = some (bundle k.material) := by
  obtain ⟨hcertificate, hca⟩ := h.begun.certificateName_ne_next m
  cases hasked with
  | cached _ => exact h.there
  | refused _ hfiles => exact (Directory.read?_of_files hfiles _).trans h.there
  | halved _ hfiles => exact (hfiles _).trans ((if_neg hcertificate).trans h.there)
  | @kept d hfiles =>
      obtain ⟨stay, gone, hperm, hkeep⟩ := exists_keep
        { s with directory := d, begun := s.begun + 1 } (s.next m)
      rw [hkeep]
      have hgone : ∀ k' ∈ gone, k' ∈ s.kept := fun k' hk' =>
        hperm.subset (List.mem_append_right _ hk')
      obtain ⟨n, -, hid⟩ := h.begun
      have hread := (read?_removeFiles_of_ids (d := d) hid
        (fun k' hk' => (h.known k' (hgone k' hk')).imp fun _ h => h.2)
        fun k' hk' => h.unknown k' (hgone k' hk')).1
      exact hread.trans ((hfiles _ hcertificate hca).trans h.there)

/-- **No call removes a file that nobody knows of.** -/
theorem Orphan.call (h : s.Orphan k) (c : Call) : (s.call c).Orphan k := by
  refine ⟨h.begun.call c, h.known.call c, fun k' hk' => ?_, ?_⟩
  · rcases mem_kept_call c hk' with hbefore | ⟨-, m, rfl⟩
    · exact h.unknown k' hbefore
    · exact h.begun.id_ne_next m
  · cases c with
    | retain ms => exact h.there
    | pathsFor m => exact h.read?_asked (s.asked_pathsFor m)

theorem Orphan.calls (h : s.Orphan k) (cs : List Call) : (s.calls cs).Orphan k := by
  induction cs generalizing s with
  | nil => exact h
  | cons c cs ih => exact ih (h.call c)

/-! ## Stores that can be reached -/

/-- Whether no file has the name of a pair that is to be begun. -/
def Free (begun : Nat) (d : Directory) : Prop :=
  ∀ n m, begun < n → d.read? (⟨m, pairId n⟩ : Kept).certificateName = none

/-- The stores that can be reached: by calls, and by what others make of the
    directory and of the writes to come, as long as they take no name of a pair
    that is to be begun. -/
inductive Reached : Store → Prop where
  | new (place : String) {d : Directory} (free : Free 0 d) : Reached (new place d)
  | call {s : Store} (h : Reached s) (c : Call) : Reached (s.call c)
  | disturbed {s : Store} (h : Reached s) {d : Directory} (free : Free s.begun d) :
      Reached { s with directory := d }

/-- Whether all that is cached was begun, and nothing that is to be begun is
    there. -/
structure Numbered (s : Store) : Prop where
  known : s.Known
  free : Free s.begun s.directory

/-- The next pair of files takes only its own names. -/
theorem Free.next {d : Directory} (h : Free s.begun s.directory)
    (hfiles : ∀ name, name ≠ (s.next m).certificateName → name ≠ (s.next m).caName →
      d.read? name = s.directory.read? name) : Free (s.begun + 1) d := by
  intro n m' hn
  have hne : (⟨m', pairId n⟩ : Kept).id ≠ (s.next m).id := by
    intro heq
    exact absurd (pairId_inj heq) (Nat.ne_of_gt hn)
  obtain ⟨hcertificate, hca⟩ := (Kept.names_ne (a := ⟨m', pairId n⟩) rfl rfl hne).1
  exact (hfiles _ hcertificate hca).trans (h n m' (Nat.lt_of_succ_lt hn))

/-- Nothing takes a name of a pair that is to be begun. -/
theorem Free.asked (h : Free s.begun s.directory) (hasked : Asked s m s' answer) :
    Free s'.begun s'.directory := by
  cases hasked with
  | cached _ => exact h
  | refused _ hfiles =>
      exact fun n m' hn => (Directory.read?_of_files hfiles _).trans (h n m' hn)
  | halved _ hfiles =>
      exact h.next fun name hcertificate _ => (hfiles name).trans (if_neg hcertificate)
  | @kept d hfiles =>
      obtain ⟨stay, gone, -, hkeep⟩ := exists_keep
        { s with directory := d, begun := s.begun + 1 } (s.next m)
      rw [hkeep]
      intro n m' hn
      refine Option.eq_none_iff_forall_ne_some.2 fun content hread => ?_
      have hbefore := (read?_of_removedFiles hread).2
      cases (h.next hfiles n m' hn).symm.trans hbefore

theorem Numbered.call (h : s.Numbered) (c : Call) : (s.call c).Numbered := by
  refine ⟨h.known.call c, ?_⟩
  cases c with
  | retain ms => exact h.free
  | pathsFor m => exact h.free.asked (s.asked_pathsFor m)

/-- **Every store that can be reached is numbered.** -/
theorem Reached.numbered (h : s.Reached) : s.Numbered := by
  induction h with
  | new place free => exact ⟨nofun, free⟩
  | call _ c ih => exact ih.call c
  | disturbed _ free ih => exact ⟨ih.known, free⟩

/-! ## Requests that fail -/

/-- What is left when the files of a material could not be had. -/
structure LeftBehind (s s' : Store) (m : TlsMaterial) : Prop where
  kept : s'.kept = s.kept
  committed : s'.committed = s.committed
  place : s'.place = s.place
  /-- The files are what they were just if it was the first that could not be
  written. -/
  clean : s'.directory.files = s.directory.files ↔ s.directory.Refuses
  /-- Else there is one more, which holds the private key. -/
  left : ¬ s.directory.Refuses → ∀ name, s'.directory.read? name =
    if name = (s.next m).certificateName then some (bundle m) else s.directory.read? name
  /-- And it stays there, whatever the store is called for. -/
  stays : ¬ s.directory.Refuses → ∀ cs,
    (s'.calls cs).directory.read? (s.next m).certificateName = some (bundle m)

/-- **A request for files that fails** leaves the cache as it was, and the
    directory too if the first file could not be written.  If only the second
    could not, the first is left behind for good. -/
theorem failed_request (hs : s.Reached) {e : Error} (h : s.pathsFor m = (s', .error e)) :
    LeftBehind s s' m := by
  obtain ⟨hknown, hfree⟩ := hs.numbered
  have hasked := s.asked_pathsFor m
  rw [h] at hasked
  dsimp only at hasked
  cases hasked with
  | refused hrefuses hfiles =>
      exact ⟨rfl, rfl, rfl, ⟨fun _ => hrefuses, fun _ => hfiles⟩,
        fun hnot => absurd hrefuses hnot, fun hnot => absurd hrefuses hnot⟩
  | @halved d _ haccepts hfiles =>
      have hnew : s.directory.read? (s.next m).certificateName = none :=
        hfree _ m (Nat.lt_succ_self _)
      have hthere : d.read? (s.next m).certificateName = some (bundle m) :=
        (hfiles _).trans (if_pos rfl)
      have horphan : Orphan { s with directory := d, begun := s.begun + 1 } (s.next m) := by
        refine ⟨⟨_, Nat.le_refl _, rfl⟩, fun k hk => ?_, fun k hk => ?_, hthere⟩
        · obtain ⟨n, hn, hid⟩ := hknown k hk
          exact ⟨n, Nat.le_succ_of_le hn, hid⟩
        · exact ((hknown k hk).id_ne_next m).symm
      refine ⟨rfl, rfl, rfl, ⟨fun hsame => ?_, fun hrefuses => absurd hrefuses haccepts⟩,
        fun _ => hfiles, fun _ cs => (horphan.calls cs).there⟩
      have hread := Directory.read?_of_files hsame (s.next m).certificateName
      cases hnew.symm.trans (hread.symm.trans hthere)

/-- A store in a directory so deep that the path of a certificate file is just
    short enough, and that of a file of authorities too long. -/
def deep : Store :=
  new "/certs" ⟨some ∅, [none, some (.reported "File name too long (os error 36)")]⟩

/-- A certificate with its key. -/
def leaf : TlsMaterial := ⟨[[97]], [99], [107]⟩

/-- There the request fails, and a file with the private key is left behind. -/
example : (deep.pathsFor leaf).2 = .error (.file (.reported "File name too long (os error 36)")) ∧
    deep.directory.names = [] ∧
    (deep.pathsFor leaf).1.directory.names = [(deep.next leaf).certificateName] ∧
    (deep.pathsFor leaf).1.directory.read? (deep.next leaf).certificateName =
      some (bundle leaf) := by
  decide +kernel

end Store

end MeshSync.Certificates
