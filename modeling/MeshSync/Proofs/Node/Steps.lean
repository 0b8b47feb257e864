import Mathlib.Logic.Relation
import MeshSync.Proofs.Reconcile.Site
import MeshSync.Proofs.Watch.Naming
import MeshSync.Reconcile.Loop

/-! # A whole node

    A watcher whose snapshots a reconciler's loop takes out of the output, and
    the site that the loop's passes ask.  Everything runs on its own: while a
    pass waits for an answer, tracks and publisher go on, and every question of
    a pass may be answered, or fail, in any way that `Reconcile.alone` has it.
    `Step` says what may happen next, `Reaches` what may happen in the end. -/

namespace MeshSync

namespace Dialogue

variable {α σ : Type} {env : Environment σ}

/-- One question of a dialogue is answered. -/
inductive Turn (env : Environment σ) : Dialogue α → σ → σ → Dialogue α → Prop
  | send {r : Dataplane.Request} {next : Except Dataplane.Error Json → Dialogue α} {s s' : σ}
      {answer : Except Dataplane.Error Json} (asked : env.send s r s' answer) :
      Turn env (.send r next) s s' (next answer)
  | certs {m : TlsMaterial} {next : Except Certificates.Error Certificates.Paths → Dialogue α}
      {s s' : σ} {answer : Except Certificates.Error Certificates.Paths}
      (asked : env.certs s m s' answer) : Turn env (.certs m next) s s' (next answer)
  | retain {ms : List TlsMaterial} {next : Dialogue α} {s s' : σ} (told : env.retain s ms s') :
      Turn env (.retain ms next) s s' next

/-- What may come of the rest of a dialogue may come of the dialogue. -/
theorem Turn.runs {d d' : Dialogue α} {s s' s'' : σ} {a : α} (h : Turn env d s s' d')
    (rest : Runs env d' s' s'' a) : Runs env d s s'' a := by
  cases h with
  | send asked => exact .send asked rest
  | certs asked => exact .certs asked rest
  | retain told => exact .retain told rest

end Dialogue

/-- A watcher, the loop that takes its snapshots, and what surrounds them. -/
structure Node (κ : Type) where
  watcher : Watch.Watcher
  /-- The loop as the last pass left it. -/
  loop : Reconcile.Loop
  /-- What is left of the pass under way. -/
  pass : Option (Dialogue Reconcile.Loop)
  site : Reconcile.Site κ

namespace Node

open Certificates (Provider)
open Dialogue (Runs Turn)
open Reconcile (Site Loop Options alone)
open Watch (Watcher Event NamesUnreserved)

variable {κ : Type} {provider : Provider κ}

/-- A node at its start. -/
def start (serviceId : String) (wait : Nat) (proxy : Except Mesh.Error String)
    (service : Except Mesh.Error Mesh.Service) (options : Options) (tracked : UInt64)
    (site : Site κ) : Node κ :=
  ⟨.start serviceId wait proxy service, .new options tracked, none, site⟩

/-- What may happen next. -/
inductive Step (provider : Provider κ) (n : Node κ) : Node κ → Prop
  /-- Something happens in the watcher, whose output is the loop's business.
      Upstreams are declared by names that stand for themselves in URLs. -/
  | watch {e : Event} {w : Watcher} (took : e ≠ .take) (closed : e ≠ .closeOutput)
      (step : n.watcher.step e = some w)
      (names : ∀ a, Watcher.heard? (n.watcher, e) = some (.proxy a) → NamesUnreserved a.1) :
      Step provider n { n with watcher := w }
  /-- The loop takes a snapshot and begins a pass. -/
  | receive {x : Snapshot} {w : Watcher} (idle : n.pass = none) (running : n.loop.running = true)
      (held : n.watcher.output.held = some x) (take : n.watcher.step .take = some w) :
      Step provider n { n with watcher := w, pass := some (n.loop.receive x) }
  /-- A question of the pass is answered. -/
  | turn {d d' : Dialogue Loop} {s : Site κ} (pass : n.pass = some d)
      (turn : Turn (alone provider) d n.site s d') :
      Step provider n { n with pass := some d', site := s }
  /-- The pass ends. -/
  | finish {l : Loop} (pass : n.pass = some (.done l)) :
      Step provider n { n with loop := l, pass := none }
  /-- The loop is told to stop between two passes. -/
  | leave {w : Watcher} (idle : n.pass = none) (told : n.watcher.stopping = true)
      (close : n.watcher.step .closeOutput = some w) :
      Step provider n { n with watcher := w, loop := n.loop.stop }

/-- What may happen in the end. -/
abbrev Reaches (provider : Provider κ) : Node κ → Node κ → Prop :=
  Relation.ReflTransGen (Step provider)

variable {n : Node κ}

/-- A pass that may come to an end may come to it step by step. -/
theorem reaches_of_runs {w : Watcher} {before l : Loop} {d : Dialogue Loop} {s s' : Site κ}
    (h : Runs (alone provider) d s s' l) :
    Reaches provider ⟨w, before, some d, s⟩ ⟨w, l, none, s'⟩ := by
  induction h with
  | done l s => exact .single (.finish rfl)
  | send asked rest ih => exact .head (.turn rfl (.send asked)) ih
  | certs asked rest ih => exact .head (.turn rfl (.certs asked)) ih
  | retain told rest ih => exact .head (.turn rfl (.retain told)) ih

/-- What the watcher may do on its own, the node may do. -/
theorem reaches_of_run {es : List Event} {w : Watcher} (h : n.watcher.run es = some w)
    (own : .take ∉ es ∧ .closeOutput ∉ es)
    (names : ∀ a, .proxy a ∈ Watcher.heard (n.watcher.moments es) → NamesUnreserved a.1) :
    Reaches provider n { n with watcher := w } := by
  induction es generalizing n with
  | nil =>
      obtain rfl := Option.some.inj h
      exact .refl
  | cons e es ih =>
      obtain ⟨v, hv, h⟩ := Option.bind_eq_some_iff.1 h
      rw [List.mem_cons, not_or, List.mem_cons, not_or] at own
      rw [Watcher.moments, hv, Watcher.heard, List.filterMap_cons] at names
      have first : Step provider n { n with watcher := v } := by
        refine .watch (Ne.symm own.1.1) (Ne.symm own.2.1) hv fun a ha => names a ?_
        rw [ha]
        exact List.mem_cons_self
      have rest := ih (n := { n with watcher := v }) h ⟨own.1.2, own.2.2⟩
      refine .head first (rest fun a ha => names a ?_)
      cases Watcher.heard? (n.watcher, e) with
      | none => exact ha
      | some x => exact List.mem_cons_of_mem _ ha

end Node

end MeshSync
