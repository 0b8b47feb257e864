import Mathlib.Data.List.Flatten
import Mathlib.Data.List.Induction
import MeshSync.Proofs.Certificates.Bundles
import MeshSync.Watch.Definition

/-! # Authorities that are trusted

    An authority whose PEM text is refused is passed over, but the certificates
    that were read before the fault are in the pool by then and stay there
    (`takeRoots_taken`).  The pool and the file of authorities of a material
    therefore hold the same certificates exactly where no refused text has any
    (`Taken.agrees_iff`, `Taken.file_iff`). -/

namespace MeshSync.Watch

/-- The PEM text of an authority. -/
def pemOf (root : Mesh.CaRoot) : Bytes := Bytes.ofText root.pem

/-- Whether the PEM text of an authority is accepted. -/
def accepted (root : Mesh.CaRoot) : Bool := (CaPool.empty.appendPem (pemOf root)).2

/-- The certificates of a PEM text, up to the first fault. -/
def certificatesOf (pem : Bytes) : List Bytes := (CaPool.empty.appendPem pem).1.certificates

/-- What is left out of a list adds nothing to it exactly where every part that
    is left out is empty. -/
theorem flatMap_filter_eq_iff {α β : Type} (p : α → Bool) (f : α → List β) (xs : List α) :
    xs.flatMap f = (xs.filter p).flatMap f ↔ ∀ x ∈ xs, p x = false → f x = [] := by
  induction xs with
  | nil => simp
  | cons x xs ih =>
      rw [List.forall_mem_cons, List.flatMap_cons, List.filter_cons, ← ih]
      cases hp : p x with
      | true => simp
      | false =>
          rw [if_neg Bool.false_ne_true]
          constructor
          · intro heq
            -- what stays is no longer than the rest, so the first part is empty
            have hle : ((xs.filter p).flatMap f).length ≤ (xs.flatMap f).length :=
              (List.filter_sublist.flatMap f).length_le
            have hlength := congrArg List.length heq
            rw [List.length_append] at hlength
            have hnil : f x = [] := List.length_eq_zero_iff.1 (by omega)
            rw [hnil, List.nil_append] at heq
            exact ⟨fun _ => hnil, heq⟩
          · rintro ⟨hnil, heq⟩
            rw [hnil rfl, List.nil_append, heq]

/-- What is taken of one more authority. -/
theorem takeRoots_concat (roots : List Mesh.CaRoot) (root : Mesh.CaRoot) :
    State.takeRoots (roots ++ [root]) =
      (if accepted root then (State.takeRoots roots).1 ++ [pemOf root]
        else (State.takeRoots roots).1,
      ⟨(State.takeRoots roots).2.certificates ++ certificatesOf (pemOf root)⟩) := by
  rw [State.takeRoots, List.foldl_concat]
  rfl

/-- What the texts and the pool taken of some authorities have to do with each
    other and with the file that is written of the texts. -/
structure Taken (roots : List Mesh.CaRoot) (pems : List Bytes) (pool : CaPool) : Prop where
  /-- The texts are those that are accepted. -/
  texts : pems = (roots.filter accepted).map pemOf
  /-- The pool holds the certificates of all texts up to their faults. -/
  certificates : pool.certificates = roots.flatMap fun root => certificatesOf (pemOf root)
  /-- It holds those of the texts that were taken, and no others, exactly where
      no text that is refused has a certificate before its fault. -/
  agrees_iff : pool.certificates = pems.flatMap certificatesOf ↔
    ∀ root ∈ roots, accepted root = false → certificatesOf (pemOf root) = []
  /-- So does the file of authorities of a material with these texts. -/
  file_iff : ∀ cert key : Bytes,
    (CaPool.empty.appendPem (Certificates.caBundle ⟨pems, cert, key⟩)).1 = pool ↔
      ∀ root ∈ roots, accepted root = false → certificatesOf (pemOf root) = []

/-- The texts taken are those that are accepted; the certificates are those of
    all texts. -/
theorem takeRoots_eq (roots : List Mesh.CaRoot) :
    State.takeRoots roots =
      ((roots.filter accepted).map pemOf,
        ⟨roots.flatMap fun root => certificatesOf (pemOf root)⟩) := by
  induction roots using List.reverseRecOn with
  | nil => rfl
  | append_singleton roots root ih =>
      rw [takeRoots_concat, ih, List.filter_append, List.flatMap_append, List.map_append]
      cases haccepted : accepted root with
      | true => simp [haccepted]
      | false => simp [haccepted]

/-- **What is taken of authorities**: of a text that is refused the certificates
    before its fault are taken all the same, and only through them can the pool
    hold what no file of authorities does. -/
theorem takeRoots_taken (roots : List Mesh.CaRoot) :
    Taken roots (State.takeRoots roots).1 (State.takeRoots roots).2 := by
  rw [takeRoots_eq]
  have htexts : ((roots.filter accepted).map pemOf).flatMap certificatesOf =
      (roots.filter accepted).flatMap fun root => certificatesOf (pemOf root) :=
    List.flatMap_map _ _ _
  have hagrees := flatMap_filter_eq_iff accepted (fun root => certificatesOf (pemOf root)) roots
  refine ⟨rfl, rfl, ?_, fun cert key => ?_⟩
  · rw [htexts]
    exact hagrees
  · have hall : ∀ ca ∈ (roots.filter accepted).map pemOf,
        (CaPool.empty.appendPem ca).2 = true := by
      intro ca hca
      obtain ⟨root, hroot, rfl⟩ := List.mem_map.1 hca
      exact (List.mem_filter.1 hroot).2
    have hfile := Certificates.appendPem_caBundle (m := ⟨_, cert, key⟩) hall .empty
    rw [hfile, ← hagrees, ← htexts]
    constructor
    · intro heq
      exact (congrArg CaPool.certificates heq).symm
    · intro heq
      rw [heq]
      rfl

/-- An authority whose text stops within its second section. -/
def brokenRoot : Mesh.CaRoot :=
  { id := "r1"
    name := "primary"
    pem := "-----BEGIN CERTIFICATE-----\nAAEC\n-----END CERTIFICATE-----\n" ++
      "-----BEGIN CERTIFICATE-----\n"
    active := true }

/-- Its first certificate is trusted, though its text is passed over: the pool
    holds what the texts that were taken do not. -/
theorem broken_root_is_trusted :
    accepted brokenRoot = false ∧
      State.takeRoots [brokenRoot] = ([], ⟨[[0, 1, 2]]⟩) ∧
      (State.takeRoots [brokenRoot]).2.certificates ≠
        (State.takeRoots [brokenRoot]).1.flatMap certificatesOf := by
  decide +kernel

end MeshSync.Watch
