import MeshSync.Certificates.Paths
import MeshSync.Dataplane.Error
import MeshSync.Dataplane.Request
import MeshSync.Snapshot

/-! # Dialogues

    A computation that asks its surroundings one thing at a time: it sends
    requests to the proxy's interface and asks for certificate files.  How it
    goes on depends on the answers alone, so what may happen between two
    questions is left to whoever answers them. -/

namespace MeshSync

/-- A computation that asks questions. -/
inductive Dialogue (α : Type) where
  | done (a : α)
  /-- Send a request and go on with its answer. -/
  | send (r : Dataplane.Request) (next : Except Dataplane.Error Json → Dialogue α)
  /-- Ask for the certificate files of a material. -/
  | certs (material : TlsMaterial) (next : Except Certificates.Error Certificates.Paths → Dialogue α)
  /-- Tell which materials the proxy uses now. -/
  | retain (materials : List TlsMaterial) (next : Dialogue α)

/-- Those who answer: what they do to the state of the world, and the answer. -/
structure Surroundings (σ : Type) where
  send : σ → Dataplane.Request → σ × Except Dataplane.Error Json
  certs : σ → TlsMaterial → σ × Except Certificates.Error Certificates.Paths
  retain : σ → List TlsMaterial → σ

namespace Dialogue

variable {α β σ : Type}

/-- Go on with the result of a dialogue. -/
def bind : Dialogue α → (α → Dialogue β) → Dialogue β
  | done a, f => f a
  | send r next, f => send r fun answer => (next answer).bind f
  | certs m next, f => certs m fun answer => (next answer).bind f
  | retain ms next, f => retain ms (next.bind f)

instance : Monad Dialogue where
  pure := done
  bind := bind

/-- The world after a dialogue, and its result. -/
def run (world : Surroundings σ) : Dialogue α → σ → σ × α
  | done a, s => (s, a)
  | send r next, s =>
    let (s, answer) := world.send s r
    (next answer).run world s
  | certs m next, s =>
    let (s, answer) := world.certs s m
    (next answer).run world s
  | retain ms next, s => next.run world (world.retain s ms)

/-- A dialogue that cannot go on after an error. -/
def andThen {ε : Type} (d : Dialogue (Except ε α)) (f : α → Dialogue (Except ε β)) :
    Dialogue (Except ε β) :=
  d.bind fun
    | .ok a => f a
    | .error e => done (.error e)

@[simp] theorem run_done (world : Surroundings σ) (a : α) (s : σ) :
    (done a).run world s = (s, a) := rfl

theorem run_bind (world : Surroundings σ) (d : Dialogue α) (f : α → Dialogue β) (s : σ) :
    (d.bind f).run world s = (f (d.run world s).2).run world (d.run world s).1 := by
  induction d generalizing s with
  | done a => rfl
  | send r next ih => exact ih _ _
  | certs m next ih => exact ih _ _
  | retain ms next ih => exact ih _

theorem bind_done (d : Dialogue α) : d.bind done = d := by
  induction d with
  | done a => rfl
  | send r next ih => simp only [bind, ih]
  | certs m next ih => simp only [bind, ih]
  | retain ms next ih => simp only [bind, ih]

theorem bind_bind {γ : Type} (d : Dialogue α) (f : α → Dialogue β) (g : β → Dialogue γ) :
    (d.bind f).bind g = d.bind fun a => (f a).bind g := by
  induction d with
  | done a => rfl
  | send r next ih => simp only [bind, ih]
  | certs m next ih => simp only [bind, ih]
  | retain ms next ih => simp only [bind, ih]

instance : LawfulMonad Dialogue :=
  LawfulMonad.mk' Dialogue bind_done (fun _ _ => rfl) bind_bind

end Dialogue

end MeshSync
