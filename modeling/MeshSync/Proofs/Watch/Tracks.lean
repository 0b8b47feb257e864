import MeshSync.Watch.Track

/-! # What a track learns

    A track writes only what an answer brings.  The route:

    * `Cursor.mark` - the cursor that an answer names; `advance` finds nothing
      new exactly at that cursor.
    * **`Track.Looks`** - all that looking at an answer can come to.
    * `Track.Moves` - every other step, which learns nothing.
    * **`Track.Tells`** - the cursor of a track is at its start or names the
      latest answer, so an answer that brings nothing new repeats the latest
      one (`Tells.look`). -/

namespace MeshSync.Watch

namespace Cursor

/-- The cursor that an answer at this position names. -/
def mark (c : Cursor) (p : Mesh.Position) : Cursor :=
  match c with
  | index _ => index p.index
  | hash _ => hash p.hash

/-- The later of two answers names the cursor. -/
@[simp] theorem mark_mark (c : Cursor) (p q : Mesh.Position) : (c.mark p).mark q = c.mark q := by
  cases c <;> rfl

/-- A cursor keeps its kind, so a reset forgets the answer. -/
@[simp] theorem reset_mark (c : Cursor) (p : Mesh.Position) : (c.mark p).reset = c.reset := by
  cases c <;> rfl

/-- An answer brings nothing new only where the cursor already names it. -/
theorem advance_of_same {c : Cursor} {p : Mesh.Position} (h : (c.advance p).2 = false) :
    c = c.mark p ∧ (c.advance p).1 = c := by
  cases c with
  | index n =>
      have hn : n = p.index := by simpa [advance] using h
      subst hn
      exact ⟨rfl, by simp [advance, UInt64.lt_irrefl]⟩
  | hash s =>
      have hs : s = p.hash := by simpa [advance] using h
      subst hs
      exact ⟨rfl, rfl⟩

/-- After an answer the cursor names it, or starts over. -/
theorem advance_cursor (c : Cursor) (p : Mesh.Position) :
    (c.advance p).1 = c.mark p ∨ (c.advance p).1 = c.reset := by
  cases c with
  | index n =>
      by_cases h : p.index < n
      · exact .inr (by simp [advance, reset, h])
      · exact .inl (by simp [advance, mark, h])
  | hash s => exact .inl rfl

end Cursor

/-- The content of an answer and the position it was given at. -/
abbrev Answer (α : Type) := α × Mesh.Position

namespace Track

variable {α : Type} {t t' : Track α} {news : News α}

/-- The answer that a track is about to look at. -/
def answer? (t : Track α) : Option (Answer α) :=
  match t.phase with
  | .received (.ok a) => some a
  | _ => none

/-- All that looking at an answer can come to. -/
inductive Looks (t : Track α) : Track α → News α → Prop where
  | failed (h : t.answer? = none) :
      Looks t { t with cursor := t.cursor.reset, phase := .pausing } .failed
  | same (a : Answer α) (h : t.answer? = some a) (hc : t.cursor = t.cursor.mark a.2) :
      Looks t { t with phase := .settled } .same
  | changed (a : Answer α) (c : Cursor) (h : t.answer? = some a)
      (hc : c = t.cursor.mark a.2 ∨ c = t.cursor.reset) :
      Looks t { t with cursor := c, phase := .written } (.changed a.1)

/-- **Looking at a reply** comes to one of these. -/
theorem looks_of_process (h : t.process = some (t', news)) : t.Looks t' news := by
  obtain ⟨cursor, phase, awaited⟩ := t
  cases phase with
  | received reply =>
      cases reply with
      | error e =>
          obtain ⟨rfl, rfl⟩ := Prod.mk.inj (Option.some.inj h)
          exact .failed rfl
      | ok a =>
          -- only whether the cursor calls the answer new decides what is written
          cases hnew : (cursor.advance a.2).2 with
          | false =>
              obtain ⟨hc, hsame⟩ := Cursor.advance_of_same hnew
              simp only [process, hnew, Bool.false_eq_true, if_false, hsame, Option.some.injEq,
                Prod.mk.injEq] at h
              obtain ⟨rfl, rfl⟩ := h
              exact .same a rfl hc
          | true =>
              simp only [process, hnew, if_true, Option.some.injEq, Prod.mk.injEq] at h
              obtain ⟨rfl, rfl⟩ := h
              exact .changed a _ rfl (Cursor.advance_cursor cursor a.2)
  | asking => exact nomatch h
  | waiting => exact nomatch h
  | written => exact nomatch h
  | settled => exact nomatch h
  | pausing => exact nomatch h
  | stopped => exact nomatch h

/-- A track looks at nothing but what it has received. -/
theorem stage_of_process (h : t.process = some (t', news)) : t.stage = .received := by
  obtain ⟨cursor, phase, awaited⟩ := t
  cases phase with
  | received reply => rfl
  | asking => exact nomatch h
  | waiting => exact nomatch h
  | written => exact nomatch h
  | settled => exact nomatch h
  | pausing => exact nomatch h
  | stopped => exact nomatch h

/-! ## Moving on -/

/-- A track that has had an answer, as far as one can see. -/
def Answered (t : Track α) : Prop :=
  t.awaited = false ∨ t.stage = .written ∨ t.stage = .settled

/-- A track that moves on without looking at an answer. -/
structure Moves (t t' : Track α) : Prop where
  cursor : t'.cursor = t.cursor
  answered : t'.Answered → t.Answered

/-- A track that stays as it is moves on. -/
theorem Moves.refl (t : Track α) : t.Moves t := ⟨rfl, id⟩

/-- A change that a track has not signalled stays so. -/
def Unsignalled (t t' : Track α) : Prop := t.stage = .written → t'.stage = .written

/-- Such a track has signalled nothing. -/
theorem Unsignalled.refl (t : Track α) : t.Unsignalled t := id

/-- A track that moves on and signals nothing. -/
def Proceeds (t t' : Track α) : Prop := t.Moves t' ∧ t.Unsignalled t'

/-- A track asks when it is its turn to, and waits from then on. -/
theorem ask_eq (h : t.ask = some t') :
    t.phase = .asking ∧ t' = { t with phase := .waiting } := by
  unfold ask at h
  split at h
  · next hp => exact ⟨hp, (Option.some.inj h).symm⟩
  · exact nomatch h

/-- A track that waits gets a reply. -/
theorem receive_eq {r : Reply α} (h : t.receive r = some t') :
    t.phase = .waiting ∧ t' = { t with phase := .received r } := by
  unfold receive at h
  split at h
  · next hp => exact ⟨hp, (Option.some.inj h).symm⟩
  · exact nomatch h

/-- A change that was written is signalled once. -/
theorem notify_eq (h : t.notify = some t') :
    t.phase = .written ∧ t' = { t with phase := .settled } := by
  unfold notify at h
  split at h
  · next hp => exact ⟨hp, (Option.some.inj h).symm⟩
  · exact nomatch h

/-- A track whose change is signalled counts as arrived and asks again. -/
theorem arrive_eq (h : t.arrive = some t') :
    t.phase = .settled ∧ t' = { t with phase := .asking, awaited := false } := by
  unfold arrive at h
  split at h
  · next hp => exact ⟨hp, (Option.some.inj h).symm⟩
  · exact nomatch h

/-- A track that paused asks again. -/
theorem wake_eq (h : t.wake = some t') :
    t.phase = .pausing ∧ t' = { t with phase := .asking } := by
  unfold wake at h
  split at h
  · next hp => exact ⟨hp, (Option.some.inj h).symm⟩
  · exact nomatch h

/-- A track stops where it waits or pauses, and nowhere else. -/
theorem stop_eq (h : t.stop = some t') :
    (t.phase = .waiting ∨ t.phase = .pausing) ∧ t' = { t with phase := .stopped } := by
  unfold stop at h
  split at h
  · next hp => exact ⟨.inl hp, (Option.some.inj h).symm⟩
  · next hp => exact ⟨.inr hp, (Option.some.inj h).symm⟩
  · exact nomatch h

/-- A step into a phase that tells of no answer. -/
theorem Moves.of_phase {p : Phase α} (h : Track.stage { t with phase := p } ≠ .written)
    (h' : Track.stage { t with phase := p } ≠ .settled) : t.Moves { t with phase := p } := by
  refine ⟨rfl, ?_⟩
  rintro (hawaited | hwritten | hsettled)
  · exact .inl hawaited
  · exact absurd hwritten h
  · exact absurd hsettled h'

/-- Asking looks at no answer. -/
theorem moves_of_ask (h : t.ask = some t') : t.Moves t' := by
  obtain ⟨-, rfl⟩ := ask_eq h
  exact .of_phase Stage.noConfusion Stage.noConfusion

/-- Nor does getting a reply. -/
theorem moves_of_receive {r : Reply α} (h : t.receive r = some t') : t.Moves t' := by
  obtain ⟨-, rfl⟩ := receive_eq h
  exact .of_phase Stage.noConfusion Stage.noConfusion

/-- Nor does signalling a change. -/
theorem moves_of_notify (h : t.notify = some t') : t.Moves t' := by
  obtain ⟨hp, rfl⟩ := notify_eq h
  exact ⟨rfl, fun _ => .inr (.inl (by rw [stage, hp]))⟩

/-- Nor does arriving. -/
theorem moves_of_arrive (h : t.arrive = some t') : t.Moves t' := by
  obtain ⟨hp, rfl⟩ := arrive_eq h
  exact ⟨rfl, fun _ => .inr (.inr (by rw [stage, hp]))⟩

/-- Nor does the end of a pause. -/
theorem moves_of_wake (h : t.wake = some t') : t.Moves t' := by
  obtain ⟨-, rfl⟩ := wake_eq h
  exact .of_phase Stage.noConfusion Stage.noConfusion

/-- Nor does stopping. -/
theorem moves_of_stop (h : t.stop = some t') : t.Moves t' := by
  obtain ⟨-, rfl⟩ := stop_eq h
  exact .of_phase Stage.noConfusion Stage.noConfusion

/-- Only a signal ends the time between a change and its signal. -/
theorem unsignalled_of_phase (h : t.phase ≠ .written) : t.Unsignalled t' := by
  intro hstage
  refine absurd ?_ h
  obtain ⟨cursor, phase, awaited⟩ := t
  cases phase with
  | written => rfl
  | _ => exact nomatch hstage

/-! ## What a track knows -/

/-- The cursor of a track is at its start or names the latest answer. -/
def Tells (start : Cursor) (latest : Option (Answer α)) (t : Track α) : Prop :=
  t.cursor = start ∨ ∃ a, latest = some a ∧ t.cursor = start.mark a.2

/-- An answer that may come after the latest one: it names a cursor, and if it
    names the same as the latest one it says the same. -/
def Follows (start : Cursor) (latest : Option (Answer α)) (a : Answer α) : Prop :=
  start.mark a.2 ≠ start ∧ ∀ b, latest = some b → start.mark b.2 = start.mark a.2 → b.1 = a.1

/-- An answer with another cursor than the latest one may say anything. -/
theorem follows_of_ne {start : Cursor} {latest : Option (Answer α)} {a : Answer α}
    (h : start.mark a.2 ≠ start) (hne : ∀ b ∈ latest, start.mark b.2 ≠ start.mark a.2) :
    Follows start latest a :=
  ⟨h, fun b hb heq => absurd heq (hne b hb)⟩

/-- A track that moves on tells the same. -/
theorem Tells.move {start : Cursor} {latest : Option (Answer α)} (h : t.Tells start latest)
    (hm : t.Moves t') : t'.Tells start latest := by
  rw [Tells, hm.cursor]
  exact h

/-- The kind of a cursor never changes. -/
theorem Tells.mark {start : Cursor} {latest : Option (Answer α)} (h : t.Tells start latest)
    (p : Mesh.Position) : t.cursor.mark p = start.mark p := by
  rcases h with h | ⟨a, -, h⟩
  · rw [h]
  · rw [h, Cursor.mark_mark]

/-- A reset brings a track back to its start. -/
theorem Tells.reset {start : Cursor} {latest : Option (Answer α)} (h : t.Tells start latest)
    (hs : start.reset = start) : t.cursor.reset = start := by
  rcases h with h | ⟨a, -, h⟩
  · rw [h, hs]
  · rw [h, Cursor.reset_mark, hs]

/-- An answer that brings nothing new repeats the latest one. -/
theorem Tells.latest_of_same {start : Cursor} {latest : Option (Answer α)}
    (h : t.Tells start latest) {a : Answer α} (hc : t.cursor = t.cursor.mark a.2)
    (ha : Follows start latest a) : ∃ b, latest = some b ∧ b.1 = a.1 := by
  rw [h.mark] at hc
  rcases h with h | ⟨b, hb, h⟩
  · exact absurd (hc.symm.trans h) ha.1
  · exact ⟨b, hb, ha.2 b hb (h.symm.trans hc)⟩

/-- **Looking at an answer** leaves a track that knows it. -/
theorem Tells.look {start : Cursor} {latest : Option (Answer α)} (h : t.Tells start latest)
    (hs : start.reset = start) (hl : t.Looks t' news) : t'.Tells start (t.answer?.or latest) := by
  cases hl with
  | failed hnone => exact .inl (h.reset hs)
  | same a ha hc => exact .inr ⟨a, by rw [ha]; rfl, hc.trans (h.mark a.2)⟩
  | changed a c ha hc =>
      rcases hc with rfl | rfl
      · exact .inr ⟨a, by rw [ha]; rfl, h.mark a.2⟩
      · -- a position that goes back resets the cursor, which then is at its start
        exact .inl (h.reset hs)

end Track

end MeshSync.Watch
