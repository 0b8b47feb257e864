import MeshSync.Proofs.Dataplane.WellFormed
import MeshSync.Reconcile.Plan

/-! # Which objects belong to a listener

    A listener owns its frontend, its backend and everything that belongs to
    the two.  No object is owned by two listeners (`Listener.owns_inj`), so
    what is done to one of them is nothing to the others. -/

namespace MeshSync.Reconcile

open Dataplane
open Url (Unreserved PlainSegment)

/-- The key of the frontend. -/
def Listener.front (l : Listener) : ObjectKey := .frontend l.frontend

/-- The key of the backend. -/
def Listener.back (l : Listener) : ObjectKey := .backend l.backend

/-- Whether an object belongs to a listener. -/
def Listener.Owns (l : Listener) (k : ObjectKey) : Prop :=
  k = l.front ∨ k = l.back ∨ k.parent = some l.front.owner ∨ k.parent = some l.back.owner

/-- Whether a listener is one that reconcilers build. -/
def Listener.Ours (l : Listener) : Prop := l = .downstream ∨ ∃ service, l = .upstream service

/-- Whether an object belongs to a listener that reconcilers build. -/
def Owned (k : ObjectKey) : Prop := ∃ l : Listener, l.Ours ∧ l.Owns k

namespace Listener

/-- The listener of the downstream is one of ours. -/
theorem ours_downstream : Listener.downstream.Ours := .inl rfl

/-- So is that of every upstream. -/
theorem ours_upstream (service : String) : (upstream service).Ours := .inr ⟨service, rfl⟩

/-! ## Names -/

/-- The frontend of an upstream is a fixed beginning and the upstream's
    name. -/
theorem toList_upstream_frontend (service : String) :
    (upstream service).frontend.toList = "front_upstream_".toList ++ service.toList :=
  String.toList_append

/-- So is its backend, with another beginning. -/
theorem toList_upstream_backend (service : String) :
    (upstream service).backend.toList = "back_upstream_".toList ++ service.toList :=
  String.toList_append

/-- Upstreams with different names have different listeners. -/
theorem upstream_inj {a b : String} (h : upstream a = upstream b) : a = b := by
  have h := congrArg (fun l : Listener => l.frontend.toList) h
  rw [toList_upstream_frontend, toList_upstream_frontend] at h
  exact String.toList_inj.1 (List.append_cancel_left h)

/-- The downstream's listener is that of no upstream. -/
theorem downstream_ne_upstream (service : String) : downstream ≠ upstream service := by
  intro h
  have h := congrArg (fun l : Listener => l.frontend.toList[6]?) h
  rw [toList_upstream_frontend] at h
  exact absurd (show some 'd' = some 'u' from h) (by decide)

/-- Our listeners are told apart by their frontends. -/
theorem frontend_inj {l m : Listener} (hl : l.Ours) (hm : m.Ours)
    (h : l.frontend = m.frontend) : l = m := by
  have hdiffer : ∀ service, downstream.frontend ≠ (upstream service).frontend := by
    intro service h
    have h := congrArg (fun t : String => t.toList[6]?) h
    rw [toList_upstream_frontend] at h
    exact absurd (show some 'd' = some 'u' from h) (by decide)
  rcases hl with rfl | ⟨a, rfl⟩
  · rcases hm with rfl | ⟨b, rfl⟩
    · rfl
    · exact absurd h (hdiffer b)
  · rcases hm with rfl | ⟨b, rfl⟩
    · exact absurd h.symm (hdiffer a)
    · have h := congrArg String.toList h
      rw [toList_upstream_frontend, toList_upstream_frontend] at h
      rw [String.toList_inj.1 (List.append_cancel_left h)]

/-- They are told apart by their backends as well. -/
theorem backend_inj {l m : Listener} (hl : l.Ours) (hm : m.Ours)
    (h : l.backend = m.backend) : l = m := by
  have hdiffer : ∀ service, downstream.backend ≠ (upstream service).backend := by
    intro service h
    have h := congrArg (fun t : String => t.toList[5]?) h
    rw [toList_upstream_backend] at h
    exact absurd (show some 'd' = some 'u' from h) (by decide)
  rcases hl with rfl | ⟨a, rfl⟩
  · rcases hm with rfl | ⟨b, rfl⟩
    · rfl
    · exact absurd h (hdiffer b)
  · rcases hm with rfl | ⟨b, rfl⟩
    · exact absurd h.symm (hdiffer a)
    · have h := congrArg String.toList h
      rw [toList_upstream_backend, toList_upstream_backend] at h
      rw [String.toList_inj.1 (List.append_cancel_left h)]

/-- The names of our frontends begin with one letter. -/
theorem head?_frontend {l : Listener} (h : l.Ours) : l.frontend.toList.head? = some 'f' := by
  rcases h with rfl | ⟨service, rfl⟩
  · rfl
  · rw [toList_upstream_frontend]
    rfl

/-- Those of our backends begin with another. -/
theorem head?_backend {l : Listener} (h : l.Ours) : l.backend.toList.head? = some 'b' := by
  rcases h with rfl | ⟨service, rfl⟩
  · rfl
  · rw [toList_upstream_backend]
    rfl

/-- Whether the names of a listener stand for themselves in URLs. -/
structure Plain (l : Listener) : Prop where
  ours : l.Ours
  frontend : Unreserved l.frontend
  backend : Unreserved l.backend

/-- The downstream's names stand for themselves in a URL. -/
theorem plain_downstream : downstream.Plain :=
  ⟨ours_downstream, (by decide : Unreserved "front_downstream"),
    (by decide : Unreserved "back_downstream")⟩

/-- Those of an upstream do where its own name does. -/
theorem plain_upstream {service : String} (h : Unreserved service) : (upstream service).Plain :=
  ⟨ours_upstream service, .append (by decide : Unreserved "front_upstream_") h,
    .append (by decide : Unreserved "back_upstream_") h⟩

/-- Such a frontend is one segment of a path. -/
theorem Plain.frontend_segment {l : Listener} (h : l.Plain) : PlainSegment l.frontend.toList :=
  .of_head (head?_frontend h.ours) (by decide) (by decide) h.frontend

/-- Such a backend is one segment of a path. -/
theorem Plain.backend_segment {l : Listener} (h : l.Plain) : PlainSegment l.backend.toList :=
  .of_head (head?_backend h.ours) (by decide) (by decide) h.backend

/-! ## Keys -/

/-- What belongs to objects of one kind tells their names. -/
theorem owner_inj {a b : ObjectKey} (hkind : a.kind = b.kind) (h : a.owner = b.owner) :
    a.name = b.name := by
  have h := congrArg String.toList h
  have howner : ∀ k : ObjectKey, k.owner.toList = (k.kind ++ "/").toList ++ k.name.toList :=
    fun k => String.toList_append
  rw [howner, howner, hkind] at h
  exact String.toList_inj.1 (List.append_cancel_left h)

/-- Nothing belongs to a frontend and a backend at once. -/
theorem front_owner_ne_back_owner (a b : String) :
    (ObjectKey.frontend a).owner ≠ (ObjectKey.backend b).owner := by
  intro h
  have h := congrArg (fun t : String => t.toList[0]?) h
  have hfront : (ObjectKey.frontend a).owner.toList = "frontends/".toList ++ a.toList :=
    String.toList_append
  have hback : (ObjectKey.backend b).owner.toList = "backends/".toList ++ b.toList :=
    String.toList_append
  rw [hfront, hback] at h
  exact absurd (show some 'f' = some 'b' from h) (by decide)

/-- Frontends and backends are told apart by what they are called as owners. -/
theorem root_inj {p q : ObjectKey} (hp : p.IsRoot) (hpp : p.parent = none) (hq : q.IsRoot)
    (hqp : q.parent = none) (h : p.owner = q.owner) : p = q := by
  obtain ⟨pkind, pparent, pname⟩ := p
  obtain ⟨qkind, qparent, qname⟩ := q
  obtain rfl : pparent = none := hpp
  obtain rfl : qparent = none := hqp
  have hkind : pkind = qkind := by
    rcases hp with rfl | rfl
    · rcases hq with rfl | rfl
      · rfl
      · exact absurd h (front_owner_ne_back_owner pname qname)
    · rcases hq with rfl | rfl
      · exact absurd h.symm (front_owner_ne_back_owner qname pname)
      · rfl
  have hname : pname = qname := owner_inj hkind h
  rw [hkind, hname]

/-- **No object belongs to two listeners.** -/
theorem owns_inj {l m : Listener} (hl : l.Ours) (hm : m.Ours) {k : ObjectKey} (h : l.Owns k)
    (h' : m.Owns k) : l = m := by
  rcases h with rfl | rfl | hk | hk
  · rcases h' with h' | h' | h' | h'
    · exact frontend_inj hl hm (congrArg ObjectKey.name h')
    · exact absurd (congrArg ObjectKey.kind h')
        (by decide : ¬ (("frontends" : String) = "backends"))
    · exact nomatch h'
    · exact nomatch h'
  · rcases h' with h' | h' | h' | h'
    · exact absurd (congrArg ObjectKey.kind h')
        (by decide : ¬ (("backends" : String) = "frontends"))
    · exact backend_inj hl hm (congrArg ObjectKey.name h')
    · exact nomatch h'
    · exact nomatch h'
  · rcases h' with rfl | rfl | h' | h'
    · exact nomatch hk
    · exact nomatch hk
    · exact frontend_inj hl hm
        (owner_inj (a := l.front) (b := m.front) rfl (Option.some.inj (hk.symm.trans h')))
    · exact absurd (Option.some.inj (hk.symm.trans h')) (front_owner_ne_back_owner _ _)
  · rcases h' with rfl | rfl | h' | h'
    · exact nomatch hk
    · exact nomatch hk
    · exact absurd (Option.some.inj (h'.symm.trans hk)) (front_owner_ne_back_owner _ _)
    · exact backend_inj hl hm
        (owner_inj (a := l.back) (b := m.back) rfl (Option.some.inj (hk.symm.trans h')))

/-- A listener owns its frontend. -/
theorem owns_front (l : Listener) : l.Owns l.front := .inl rfl

/-- A listener owns its backend. -/
theorem owns_back (l : Listener) : l.Owns l.back := .inr (.inl rfl)

/-- Where neither frontend nor backend is there, nothing of a listener is. -/
theorem nothing_of_absent {l : Listener} {objects : Objects} (h : objects.WellFormed)
    (hfront : objects.get? l.front = none) (hback : objects.get? l.back = none) :
    objects.AgreeOn l.Owns ∅ := by
  intro k hk
  show objects.get? k = none
  refine Option.eq_none_iff_forall_ne_some.2 fun v hv => ?_
  have absent : ∀ p : ObjectKey, p.IsRoot → p.parent = none → objects.get? p = none →
      k.parent ≠ some p.owner := by
    intro p hp hpp hnone hkp
    by_cases hroot : k.IsRoot
    · rw [(h.names k v hv).rooted hroot] at hkp
      exact nomatch hkp
    · obtain ⟨q, w, hq, hqw, hkq⟩ := h.owned k v hv hroot
      have howner : q.owner = p.owner := Option.some.inj (hkq.symm.trans hkp)
      rw [root_inj hq ((h.names q w hqw).rooted hq) hp hpp howner, hnone] at hqw
      exact nomatch hqw
  rcases hk with rfl | rfl | hk | hk
  · rw [hfront] at hv
    exact nomatch hv
  · rw [hback] at hv
    exact nomatch hv
  · exact absent l.front (ObjectKey.isRoot_frontend _) rfl hfront hk
  · exact absent l.back (ObjectKey.isRoot_backend _) rfl hback hk

end Listener

end MeshSync.Reconcile
